import WarningSweep.Proofs.Batch.File
import WarningSweep.Proofs.Batch.Plan
import WarningSweep.Proofs.Files.Atomicity
import WarningSweep.Proofs.Source.Collect

/-!
# Files of a batch do not affect each other

The run over all files keeps, after each of them, that the files still to come are as they were.  So
each file gets its result as if it were the only one.
-/

namespace WarningSweep

namespace Files

variable {files : Files} {path : String} {location : Location}

def place? (files : Files) (path : String) : Option Location :=
  (files.find path).toOption.map Prod.fst

theorem place?_of_find {entry : Entry} (found : files.find path = .ok (location, entry)) :
    files.place? path = some location := by
  rw [place?, found]
  rfl

end Files

namespace Batch

open Operation Files

variable {surroundings : Surroundings} {path : String} {location : Location} {content : Bytes}
  {mode : Nat}

/-- One of the sources is at the location. -/
def Among (files : Files) (sources : List String) (location : Location) : Prop :=
  ∃ path ∈ sources, files.place? path = some location

/-- Sources that are different files, none of which is a log file. -/
structure Apart (state : State) (sources : List String) : Prop where
  differ : sources.Pairwise fun one other => state.files.place? one ≠ state.files.place? other
  unlogged : ∀ location, Among state.files sources location → ¬ state.desk.sink.Logs location

def Fits (sweep : Sweep) (files : Files) (path : String) : Prop :=
  ∀ content, files.read path = .ok content → sweep.HasRoom (Text.decode content)

/-- A source and its result, by the file as it was before the batch and as it is after it. -/
def Handled (surroundings : Surroundings) (sweep : Sweep) (dryRun : Bool) (files after : Files)
    (path : String) (result : FileResult) : Prop :=
  ∃ location content mode, files.find path = .ok (location, .file content mode) ∧
    verdict sweep dryRun path content (writing surroundings files path) = some result ∧
    Leaves sweep dryRun content mode result (after.tree.get? location)

theorem Handled.of_find {sweep : Sweep} {dryRun : Bool} {files after : Files} {result : FileResult}
    (handled : Handled surroundings sweep dryRun files after path result)
    (found : files.find path = .ok (location, .file content mode)) :
    verdict sweep dryRun path content (writing surroundings files path) = some result ∧
      Leaves sweep dryRun content mode result (after.tree.get? location) := by
  obtain ⟨_, _, _, same, result_eq, left⟩ := handled
  cases found.symm.trans same
  exact ⟨result_eq, left⟩

def State.reported (state : State) (surroundings : Surroundings) (progress : Progress)
    (result : FileResult) : State :=
  ({ state with tally := state.tally.record result } : State).sent surroundings
    (progress.fileRecord result :: progress.shareRecords?.getD [])

theorem reported_moves (state : State) (surroundings : Surroundings) (progress : Progress)
    (result : FileResult) :
    Moves (fun _ => False) state (state.reported surroundings progress result) := by
  have sent := sent_moves { state with tally := state.tally.record result } surroundings
    (progress.fileRecord result :: progress.shareRecords?.getD [])
  exact ⟨sent.rewrites, sent.logs⟩

theorem sweepFiles_cons_apply {plan : Plan} {dryRun : Bool} {progress : Progress}
    {rest : List String} {state after : State} {result : FileResult}
    (swept : sweepFile surroundings plan dryRun path state = (.ok result, after)) :
    sweepFiles surroundings plan dryRun progress (path :: rest) state =
      ((sweepFiles surroundings plan dryRun progress.next rest
          (after.reported surroundings progress.next result)).1.map (result :: ·),
        (sweepFiles surroundings plan dryRun progress.next rest
          (after.reported surroundings progress.next result)).2) := by
  unfold State.reported
  simp only [sweepFiles, bind_apply, swept, modify_apply, send_apply, pure_apply]
  generalize sweepFiles surroundings plan dryRun progress.next rest _ = ended
  obtain ⟨fault | results, last⟩ := ended <;> rfl

theorem sweepFiles_of_failure {plan : Plan} {dryRun : Bool} {progress : Progress}
    {before : List String} (rest : List String) {state middle after : State}
    {results : List FileResult} {fault : Fault}
    (ran : sweepFiles surroundings plan dryRun progress before state = (.ok results, middle))
    (failed : sweepFile surroundings plan dryRun path middle = (.error fault, after)) :
    sweepFiles surroundings plan dryRun progress (before ++ path :: rest) state =
      (.error fault, after) := by
  induction before generalizing progress state results with
  | nil =>
      cases ran
      simp only [List.nil_append, sweepFiles, bind_apply, failed]
  | cons first before inductionHypothesis =>
      rcases swept : sweepFile surroundings plan dryRun first state with ⟨other | result, next⟩
      · simp only [sweepFiles, bind_apply, swept] at ran
        cases ran
      rw [sweepFiles_cons_apply swept] at ran
      obtain ⟨ended, last⟩ := Prod.mk.inj ran
      obtain ⟨others, same, -⟩ := map_eq_ok_iff.mp ended
      have later := inductionHypothesis (Prod.ext same last)
      rw [List.cons_append, sweepFiles_cons_apply swept, later]
      rfl

theorem writeReport_of_falsy {settings : Settings} (surroundings : Surroundings)
    (results : List FileResult) (unreported : settings.reportFile.truthy = false) :
    writeReport surroundings settings results = pure () := by
  rw [writeReport]
  split
  next path given =>
    rw [given] at unreported
    have empty : path = "" := by simpa [Value.truthy] using unreported
    rw [if_neg (not_not_intro empty)]
  next =>
    rw [unreported]
    rfl

def processing (count : Nat) : Log.Record := Log.Channel.batch.info s!"Processing {count} files"

theorem run_of_uncollected {settings : Settings} {extensions paths : List String} {plan : Plan}
    {state : State} {fault : FileFault} {log : List Log.Record}
    (extensions_eq : extensionTexts settings = .ok extensions)
    (failed : Source.collect state.files paths extensions = (.error fault, log)) :
    run surroundings settings plan paths state =
      (.error (.file fault), state.sent surroundings log) := by
  simp only [run, bind_apply, extensions_eq, liftM_apply, get_apply, failed,
    send_apply, throw_apply]

theorem run_of_collected {settings : Settings} {extensions paths sources : List String}
    {plan : Plan} {state middle : State} {results : List FileResult} {log : List Log.Record}
    (extensions_eq : extensionTexts settings = .ok extensions)
    (collected : Source.collect state.files paths extensions = (.ok sources, log))
    (ran : sweepFiles surroundings plan settings.dryRun.truthy ⟨sources.length, 50, 0⟩ sources
      ((state.sent surroundings log).sent surroundings [processing sources.length]) =
        (.ok results, middle))
    (unreported : settings.reportFile.truthy = false) :
    run surroundings settings plan paths state =
      (.ok results, middle.sent surroundings (tallyRecords middle.tally)) := by
  have silent := writeReport_of_falsy surroundings results unreported
  rw [processing] at ran
  simp only [run, bind_apply, extensions_eq, liftM_apply, get_apply, collected, send_apply, ran,
    silent, pure_apply]

theorem run_of_unswept {settings : Settings} {extensions paths sources : List String}
    {plan : Plan} {state after : State} {fault : Fault} {log : List Log.Record}
    (extensions_eq : extensionTexts settings = .ok extensions)
    (collected : Source.collect state.files paths extensions = (.ok sources, log))
    (failed : sweepFiles surroundings plan settings.dryRun.truthy ⟨sources.length, 50, 0⟩ sources
      ((state.sent surroundings log).sent surroundings [processing sources.length]) =
        (.error fault, after)) :
    run surroundings settings plan paths state = (.error fault, after) := by
  rw [processing] at failed
  simp only [run, bind_apply, extensions_eq, liftM_apply, get_apply, collected, send_apply, failed]

/-- Each file is as it was at the start when its turn comes, and is left alone once its turn is
over. -/
theorem sweepFiles_eq {start : State} (sweep : Sweep) (dryRun : Bool)
    (moveFaults : ∀ path, surroundings.moveFault path ≠ some .noPath)
    (named : start.files.IsNamed) (sources : List String)
    (found : ∀ path ∈ sources, ∃ location content mode,
      Source.IsSource start.files path location content mode)
    (roomy : ∀ path ∈ sources, Fits sweep start.files path)
    (apart : Apart start sources) (progress : Progress) {done : Location → Prop} {state : State}
    (since : Moves done start state)
    (fresh : ∀ location, Among start.files sources location → ¬ done location) :
    ∃ results after,
      sweepFiles surroundings (.ready sweep) dryRun progress sources state = (.ok results, after) ∧
      List.Forall₂ (Handled surroundings sweep dryRun start.files after.files) sources results ∧
      Moves (Among start.files sources) state after := by
  -- along the sources: what has been done so far lies outside the files still to come
  induction sources generalizing progress done state with
  | nil => exact ⟨[], state, rfl, .nil, .refl _ state⟩
  | cons path rest inductionHypothesis =>
      obtain ⟨location, content, mode, -, atStart⟩ := found path List.mem_cons_self
      have place := place?_of_find atStart
      have here : Among start.files (path :: rest) location := ⟨path, List.mem_cons_self, place⟩
      have later {other : Location} (among : Among start.files rest other) :
          Among start.files (path :: rest) other :=
        among.imp fun _ => And.imp_left (List.mem_cons_of_mem _)
      obtain ⟨others, differ⟩ := List.pairwise_cons.mp apart.differ
      have notRest : ¬ Among start.files rest location := by
        rintro ⟨other, member, same⟩
        exact others other member (place.trans same.symm)
      have unlogged : ¬ state.desk.sink.Logs location := fun logs =>
        apart.unlogged location here (since.logs location logs)
      obtain ⟨result, middle, swept, result_eq, moved, left⟩ :=
        sweepFile_eq sweep dryRun
          (since.find_eq (fresh location here) (apart.unlogged location here) atStart) unlogged
          (since.isNamed named) (moveFaults path)
          (roomy path List.mem_cons_self content (by rw [Files.read, atStart]))
      rw [since.writing_eq] at result_eq
      have reported := reported_moves middle surroundings progress.next result
      have turn := moved.trans (reported.weaken fun _ => False.elim)
      obtain ⟨results, after, ran, handled, moves⟩ := inductionHypothesis
        (fun path member => found path (List.mem_cons_of_mem _ member))
        (fun path member => roomy path (List.mem_cons_of_mem _ member))
        ⟨differ, fun location among => apart.unlogged location (later among)⟩ progress.next
        ((since.weaken fun _ => Or.inl).trans (turn.weaken fun _ => Or.inr)) (by
          rintro other among (old | rfl)
          · exact fresh other (later among) old
          · exact notRest among)
      have settled : after.files.tree.get? location = middle.files.tree.get? location :=
        ((reported.weaken fun _ => False.elim).trans moves).get?_eq notRest
          fun logs => unlogged (moved.logs location logs)
      rw [← settled] at left
      have whole : sweepFiles surroundings (.ready sweep) dryRun progress
          (path :: rest) state = _ :=
        sweepFiles_cons_apply swept
      rw [ran] at whole
      refine ⟨result :: results, after, whole,
        .cons ⟨location, content, mode, atStart, result_eq, left⟩ handled, ?_⟩
      exact (turn.weaken fun _ same => same ▸ here).trans (moves.weaken fun _ => later)

theorem Apart.of_append {state : State} {sources more : List String}
    (apart : Apart state (sources ++ more)) : Apart state sources where
  differ := (List.pairwise_append.mp apart.differ).1
  unlogged := fun location among => apart.unlogged location
    (among.imp fun _ => And.imp_left (List.mem_append_left more))

/-- Files that have been handled stay as they are while nothing changes but log files. -/
theorem forall₂_handled_of_moves {sweep : Sweep} {dryRun : Bool} {start middle after : State}
    {sources : List String} {results : List FileResult} {changed : Location → Prop}
    (apart : Apart start sources) (moves : Moves changed start middle)
    (quiet : Moves (fun _ => False) middle after)
    (handled : List.Forall₂ (Handled surroundings sweep dryRun start.files middle.files)
      sources results) :
    List.Forall₂ (Handled surroundings sweep dryRun start.files after.files) sources results := by
  have unlogged : ∀ source ∈ sources, ∀ location, start.files.place? source = some location →
      ¬ middle.desk.sink.Logs location := fun source member location place logs =>
    apart.unlogged location ⟨source, member, place⟩ (moves.logs location logs)
  refine ((List.forall₂_and_left _ _).mpr ⟨unlogged, handled⟩).imp ?_
  rintro source result ⟨unlogged, location, content, mode, found, result_eq, left⟩
  rw [← quiet.get?_eq id (unlogged location (place?_of_find found))] at left
  exact ⟨location, content, mode, found, result_eq, left⟩

/-- A file that there is no room for ends the batch: the files before it are handled, and it and the
files after it are left alone. -/
theorem sweepFiles_of_cramped {start state : State} (sweep : Sweep) (dryRun : Bool)
    (moveFaults : ∀ path, surroundings.moveFault path ≠ some .noPath)
    (named : start.files.IsNamed) {before rest : List String}
    (found : ∀ source ∈ before ++ path :: rest, ∃ location content mode,
      Source.IsSource start.files source location content mode)
    (roomy : ∀ source ∈ before, Fits sweep start.files source)
    (cramped : ¬ Fits sweep start.files path) (apart : Apart start (before ++ path :: rest))
    (progress : Progress) (since : Moves (fun _ => False) start state) :
    ∃ results after,
      sweepFiles surroundings (.ready sweep) dryRun progress (before ++ path :: rest) state =
        (.error (.tooDeep surroundings.depthMessage), after) ∧
      List.Forall₂ (Handled surroundings sweep dryRun start.files after.files) before results ∧
      Moves (Among start.files before) state after := by
  obtain ⟨location, content, mode, -, atStart⟩ := found path (by simp)
  have place := place?_of_find atStart
  obtain ⟨results, middle, ran, handled, moves⟩ :=
    sweepFiles_eq sweep dryRun moveFaults named before
    (fun source member => found source (List.mem_append_left _ member)) roomy apart.of_append
    progress since fun _ _ => id
  have fresh : ¬ Among start.files before location := by
    rintro ⟨source, member, same⟩
    exact (List.pairwise_append.mp apart.differ).2.2 source member path List.mem_cons_self
      (same.trans place.symm)
  have whole := (since.weaken fun _ => False.elim).trans moves
  have stillFound := whole.find_eq fresh (apart.unlogged location ⟨path, by simp, place⟩) atStart
  have tooDeep : ¬ sweep.HasRoom (Text.decode content) := by
    intro hasRoom
    refine cramped fun other read => ?_
    rw [Files.read, atStart] at read
    cases read
    exact hasRoom
  obtain ⟨after, failed, quiet⟩ := sweepFile_of_cramped sweep dryRun
    (by rw [Files.read, stillFound]) tooDeep
  exact ⟨results, after, sweepFiles_of_failure rest ran failed,
    forall₂_handled_of_moves apart.of_append whole quiet handled,
    moves.trans (quiet.weaken fun _ => False.elim)⟩

/-- Where all that paths stand for can be looked at and there is room for the regions of every file,
a batch handles each file on its own: there is one result for each file, given by its path, its
bytes and the end of writing it back, and nothing else changes but log files.  A file that there is
no room for ends the batch when its turn comes, and a path that is too long ends it before the first
file. -/
theorem run_isolated (surroundings : Surroundings) (settings : Settings) (room : Nat)
    (extensions paths : List String) (state : State)
    (moveFaults : ∀ path, surroundings.moveFault path ≠ some .noPath)
    (textual : settings.IsTextual extensions) (accepted : settings.check.1 = .ok [])
    (unreported : settings.reportFile.truthy = false)
    (proper : state.files.tree.Proper) (named : state.files.IsNamed)
    (apart : ∀ sources, (Source.collect state.files paths extensions).1 = .ok sources →
      Apart state sources) :
    ∃ sweep, Plan.ofSettings room settings = .ok (.ready sweep) ∧
      ((∀ given ∈ paths, ¬ Source.Overlong state.files given) → ∃ sources,
        (Source.collect state.files paths extensions).1 = .ok sources ∧
        ((∀ path ∈ sources, Fits sweep state.files path) → ∃ results after,
          run surroundings settings (.ready sweep) paths state = (.ok results, after) ∧
          List.Forall₂ (Handled surroundings sweep settings.dryRun.truthy state.files after.files)
            sources results ∧
          Rewrites
            (fun location => Among state.files sources location ∨ state.desk.sink.Logs location)
            state.files after.files) ∧
        ∀ before path rest, sources = before ++ path :: rest →
          (∀ earlier ∈ before, Fits sweep state.files earlier) → ¬ Fits sweep state.files path →
          ∃ results after,
            run surroundings settings (.ready sweep) paths state =
              (.error (.tooDeep surroundings.depthMessage), after) ∧
            List.Forall₂ (Handled surroundings sweep settings.dryRun.truthy state.files after.files)
              before results ∧
            Rewrites
              (fun location => Among state.files before location ∨ state.desk.sink.Logs location)
              state.files after.files) ∧
      ((∃ given ∈ paths, Source.Overlong state.files given) → ∃ fault after,
        run surroundings settings (.ready sweep) paths state = (.error (.file fault), after) ∧
        fault.cause = .nameTooLong ∧
        Rewrites state.desk.sink.Logs state.files after.files) := by
  obtain ⟨sweep, ready⟩ := Settings.exists_ready_of_accepted room textual accepted
  have extensions_eq := extensionTexts_of_textual textual
  refine ⟨sweep, ready, ?_⟩
  rcases collected : Source.collect state.files paths extensions with ⟨outcome, log⟩
  have cases := Source.collect_cases proper paths extensions
  rw [collected] at cases apart
  rcases cases with ⟨⟨given, member, long⟩, fault, failed, cause⟩ | ⟨short, sources, same, found⟩
  · cases failed
    refine ⟨fun short => absurd long (short given member),
      fun _ => ⟨fault, _, run_of_uncollected extensions_eq collected, cause, ?_⟩⟩
    exact (sent_moves state surroundings log).rewrites.weaken fun _ inside => inside.resolve_left id
  cases same
  have begun := (sent_moves state surroundings log).trans
    (sent_moves _ surroundings [processing sources.length])
  have apart := apart sources rfl
  refine ⟨fun _ => ⟨sources, rfl, ?_, ?_⟩,
    fun ⟨given, member, long⟩ => absurd long (short given member)⟩
  · intro roomy
    obtain ⟨results, middle, ran, handled, moves⟩ := sweepFiles_eq sweep
      settings.dryRun.truthy moveFaults named sources found roomy apart
      ⟨sources.length, 50, 0⟩ begun fun _ _ => id
    have whole := (begun.weaken fun _ => False.elim).trans moves
    have ended := sent_moves middle surroundings (tallyRecords middle.tally)
    exact ⟨results, _, run_of_collected extensions_eq collected ran unreported,
      forall₂_handled_of_moves apart whole ended handled,
      (whole.trans (ended.weaken fun _ => False.elim)).rewrites⟩
  · rintro before path rest rfl roomy cramped
    obtain ⟨results, after, failed, handled, moves⟩ := sweepFiles_of_cramped sweep
      settings.dryRun.truthy moveFaults named found roomy cramped apart
      ⟨(before ++ path :: rest).length, 50, 0⟩ begun
    exact ⟨results, after, run_of_unswept extensions_eq collected failed, handled,
      ((begun.weaken fun _ => False.elim).trans moves).rewrites⟩

/-- A file whose markers do not pair up does not keep the next one from being modified. -/
theorem run_isolated_beside_failure :
    let settings : Settings := { startMarker := .str "<", stopMarker := .str ">" }
    let sweep : Sweep := ⟨⟨"<", ">", by decide, by decide, by decide⟩,
      Sweep.standardWarningHead, {}, 900⟩
    let files : Files := { tree := ⟨[(["a"], .file [60, 120, 62] 0o640),
      (["b"], .file [60] 0o644)]⟩ }
    let start : State := { desk := { files } }
    ∃ results after, run calm settings (.ready sweep) ["b", "a"] start = (.ok results, after) ∧
      results = [failure "b" "START marker without matching END at offset 0",
        swept "a" .modified ⟨1, 1, 0⟩] ∧
      after.files.tree.get? ["b"] = some (.file [60] 0o644) ∧
      after.files.tree.get? ["a"] = some (.file [120] 0o640) := by
  intro settings sweep files start
  have first : files.find "b" = .ok (["b"], .file [60] 0o644) :=
    files.find_of_entryName (by decide)
  have second : files.find "a" = .ok (["a"], .file [60, 120, 62] 0o640) :=
    files.find_of_entryName (by decide)
  have texts : (Path.ofString "a").text = "a" ∧ (Path.ofString "b").text = "b" := by decide +kernel
  have written : writing calm files "a" (Text.encode [.char 'x']) = .ok () := by
    have beside : files.temporaryPlace (Path.ofString "a") ⟨"0", rfl⟩ =
        ("//.a.0.tmp", .ok (.vacant [".a.0.tmp"])) := by
      rw [temporaryPlace, admitPath_eq]
      decide +kernel
    have free : files.freePlace (Path.ofString "a") calm.stamps =
        .ok ("//.a.0.tmp", [".a.0.tmp"]) := by
      rw [calm, freePlace, beside]
    have admitted : admitPath (Path.ofString "a").text = .ok () :=
      admitPath_eq_ok_iff.mpr (by decide +kernel)
    have place : files.replacePlace (Path.ofString "a") = .ok ["a"] := by decide +kernel
    exact (replaceAmid_succeeds_iff _ _ _ _ _).mpr ⟨_, ⟨_, free⟩, admitted, place, by simp [calm]⟩
  have unpaired : sweep.run (Text.decode [60]) = .error (.markers (.unclosed 0)) := by
    decide +kernel
  have failed : verdict sweep false "b" [60] (writing calm files "b") =
      some (failure "b" "START marker without matching END at offset 0") := by
    rw [verdict, unpaired]
    decide +kernel
  have paired : sweep.run (Text.decode [60, 120, 62]) = .ok ⟨[.char 'x'], ⟨1, 1, 0⟩⟩ := by
    decide +kernel
  have modified : verdict sweep false "a" [60, 120, 62] (writing calm files "a") =
      some (swept "a" .modified ⟨1, 1, 0⟩) := by
    rw [verdict, paired]
    dsimp only
    rw [if_neg (by decide +kernel), written, if_neg (by decide)]
  have ready : Plan.ofSettings 900 settings = .ok (.ready sweep) :=
    Plan.ofSettings_eq_ready 900 sweep.markers rfl rfl rfl rfl rfl rfl
  have collected (extensions : List String) :
      (Source.collect files ["b", "a"] extensions).1 = .ok ["b", "a"] := by
    simp only [Source.collect, Source.expandAll, Source.expand, texts, lookFor, first, second]
    rfl
  have apart : Apart start ["b", "a"] := by
    refine ⟨by simp [start, State.files, place?_of_find first, place?_of_find second], ?_⟩
    rintro _ _ ⟨_, none⟩
    cases none
  have short : ∀ given ∈ ["b", "a"], ¬ Source.Overlong files given := by
    simp [Source.Overlong, texts, first, second]
  obtain ⟨_, sameReady, isolated, -⟩ := run_isolated calm settings 900
    [".m", ".mm", ".h", ".c", ".cpp"] ["b", "a"] start (by simp [calm])
    ⟨⟨_, rfl⟩, ⟨_, rfl⟩, ⟨_, rfl⟩, ⟨_, rfl⟩, ⟨_, rfl⟩⟩ (by decide +kernel) rfl (by decide +kernel)
    (by decide +kernel)
    (fun sources same => Except.ok.inj ((collected _).symm.trans same) ▸ apart)
  cases ready.symm.trans sameReady
  obtain ⟨sources, same, isolated, -⟩ := isolated short
  cases (collected _).symm.trans same
  have roomy : ∀ path ∈ ["b", "a"], Fits sweep files path := by
    simp [Fits, Files.read, first, second, Sweep.HasRoom, unpaired, paired]
  obtain ⟨results, after, ran, handled, -⟩ := isolated roomy
  rw [List.forall₂_cons_left_iff] at handled
  obtain ⟨one, _, ofFirst, handled, rfl⟩ := handled
  rw [List.forall₂_cons_left_iff] at handled
  obtain ⟨two, _, ofSecond, nothing, rfl⟩ := handled
  cases nothing
  obtain ⟨one_eq, kept⟩ := ofFirst.of_find first
  obtain ⟨two_eq, changed⟩ := ofSecond.of_find second
  cases one_eq.symm.trans failed
  cases two_eq.symm.trans modified
  rw [Leaves, if_neg (by simp)] at kept
  rw [Leaves, if_pos ⟨rfl, rfl⟩] at changed
  obtain ⟨_, again, entry⟩ := changed
  cases paired.symm.trans again
  exact ⟨_, after, ran, rfl, kept, entry⟩

/-- A path that is too long ends the batch, although the other file could be swept. -/
theorem long_path_ends_run :
    let settings : Settings := { startMarker := .str "<", stopMarker := .str ">" }
    let sweep : Sweep := ⟨⟨"<", ">", by decide, by decide, by decide⟩,
      Sweep.standardWarningHead, {}, 900⟩
    let files : Files := { tree := ⟨[(["a"], .file [60, 120, 62] 0o640)]⟩ }
    let start : State := { desk := { files } }
    let long := String.ofList (List.replicate 256 'n')
    settings.IsTextual [".m", ".mm", ".h", ".c", ".cpp"] ∧ settings.check.1 = .ok [] ∧
      settings.reportFile.truthy = false ∧ Plan.ofSettings 900 settings = .ok (.ready sweep) ∧
      files.read "a" = .ok [60, 120, 62] ∧
      sweep.run (Text.decode [60, 120, 62]) = .ok ⟨[.char 'x'], ⟨1, 1, 0⟩⟩ ∧
      run calm settings (.ready sweep) ["a", long] start =
        (.error (.file ⟨.nameTooLong, [long]⟩), start) := by
  intro settings sweep files start long
  have textual : settings.IsTextual [".m", ".mm", ".h", ".c", ".cpp"] :=
    ⟨⟨_, rfl⟩, ⟨_, rfl⟩, ⟨_, rfl⟩, ⟨_, rfl⟩, ⟨_, rfl⟩⟩
  have present : files.find "a" = .ok (["a"], .file [60, 120, 62] 0o640) :=
    files.find_of_entryName (by decide)
  have size : long.utf8ByteSize = 256 := by decide +kernel
  have chars : ∀ c ∈ long.toList, c = 'n' := by
    rw [String.toList_ofList]
    exact fun c member => List.eq_of_mem_replicate member
  have named : IsName long := by
    refine ⟨?_, ?_, fun slash => absurd (chars _ slash) (by decide)⟩
    · intro empty
      rw [empty] at size
      exact absurd size (by decide)
    · intro dot
      rw [dot] at size
      exact absurd size (by decide)
  have tooLong : files.find long = .error .nameTooLong :=
    files.find_of_long_name named (fun null => absurd (chars _ null) (by decide))
      (by rw [size]; decide) (by rw [size]; decide)
  have collected : Source.collect start.files ["a", long] [".m", ".mm", ".h", ".c", ".cpp"] =
      (.error ⟨.nameTooLong, [long]⟩, []) := by
    have one : (Path.ofString "a").text = "a" := by decide +kernel
    have two : (Path.ofString long).text = long := by
      rw [Path.ofString_of_name named, Path.text_of_name]
    rw [show start.files = files from rfl]
    simp only [Source.collect, Source.expandAll, Source.expand, one, two, lookFor, present, tooLong]
    rfl
  refine ⟨textual, by decide +kernel, rfl,
    Plan.ofSettings_eq_ready 900 sweep.markers rfl rfl rfl rfl rfl rfl,
    by rw [Files.read, present], by decide +kernel, ?_⟩
  exact run_of_uncollected (extensionTexts_of_textual textual) collected

end Batch

end WarningSweep
