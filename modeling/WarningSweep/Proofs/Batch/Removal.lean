import WarningSweep.Proofs.Batch.Isolation
import WarningSweep.Proofs.Report.Agreement
import WarningSweep.Proofs.Sweep.FixedPoint
import WarningSweep.Proofs.Sweep.Loss

/-!
# Removed warnings

The number of removed warnings that a batch reports is the number of lines that were deleted from
the files that were rewritten, and the number of those that would have been deleted from the files
that could not be written.
-/

namespace WarningSweep

open Operation Files

/-! ### What is deleted from one text -/

namespace Sweep

open Text

/-- A sweep makes a text of another one by taking `count` whole lines out of its plain text, and
then only the blank lines at its start.  For a head without newlines the lines are those that the
regions delete. -/
def DeletesLines (sweep : Sweep) (before after : Text) (count : Nat) : Prop :=
  ∃ reading, sweep.markers.Reads 0 before reading ∧ ∃ deleted : Finset Nat,
    (∀ stop ∈ deleted, LineEndsAt reading.plain stop) ∧
    (newline ∉ sweep.warningHead → ∀ stop, stop ∈ deleted ↔ sweep.Deletes reading stop) ∧
    after = dropBlankLines (withoutLines deleted 0 reading.plain) ∧
    deleted.card = count

variable {sweep : Sweep} {t : Text} {outcome : Outcome}

theorem deletesLines_of_run (ran : sweep.run t = .ok outcome) :
    sweep.DeletesLines t outcome.text outcome.summary.removed := by
  obtain ⟨-, text, summary⟩ := run_eq_ok_iff.mp ran
  obtain ⟨deleted, lineEnds, -, exact_of_plain, left, card⟩ :=
    sweep.exists_lost (sweep.markers.pieces t).1 (sweep.markers.pieces t).2
  refine ⟨sweep.markers.reading 0 0 t, sweep.markers.reads_reading 0 0 t, deleted, lineEnds,
    exact_of_plain, ?_, ?_⟩
  · rw [text, left]
    rfl
  · rw [summary, card]

theorem removed_of_unchanged (ran : sweep.run t = .ok outcome) (same : outcome.text = t) :
    outcome.summary.removed = 0 := by
  have unmarked := sweep.unmarked_of_length_le ran (Nat.le_of_eq (congrArg List.length same.symm))
  rw [sweep.run_of_unmarked unmarked] at ran
  cases ran
  rfl

end Sweep

def Plan.sweep? : Plan → Option Sweep
  | .ready sweep => some sweep
  | .wordless sweep _ => some sweep
  | .blocked _ => none

theorem Plan.exists_sweep_of_run {plan : Plan} {t : Text} {outcome : Sweep.Outcome}
    (ran : plan.run t = .ok outcome) :
    ∃ sweep, plan.sweep? = some sweep ∧ sweep.run t = .ok outcome := by
  unfold run at ran
  split at ran
  next sweep => exact ⟨sweep, rfl, mapError_eq_ok_iff.mp ran⟩
  next sweep word =>
    split at ran
    · cases ran
    · exact ⟨sweep, rfl, mapError_eq_ok_iff.mp ran⟩
  · cases ran

theorem Files.Rewrites.exists_find {changed : Location → Prop} {files after : Files} {path : String}
    {location : Location} {content : Bytes} {mode : Nat} (rewrites : Rewrites changed files after)
    (found : files.find path = .ok (location, .file content mode)) :
    ∃ content' mode', after.find path = .ok (location, .file content' mode') := by
  obtain ⟨admitted, walked, kind⟩ := find_eq_ok_iff.mp found
  rcases Tree.Stop.cases_of_view_eq (rewrites.filesAlike.walk_view (leadingSlashes path)
      (pathNames path)) with ⟨_, one, -⟩ | ⟨_, one, -⟩ | ⟨place, _, other, one, two, kinds⟩
  · rw [walked] at one
    cases one
  · rw [walked] at one
    cases one
  · rw [walked] at one
    cases one
    cases other with
    | directory => cases kinds
    | file content' mode' =>
        exact ⟨content', mode', find_eq_ok_iff.mpr ⟨admitted, two, kind.elim nofun .inr⟩⟩

theorem Files.exists_find_of_read {files : Files} {path : String} {content : Bytes}
    (read : files.read path = .ok content) :
    ∃ location mode, files.find path = .ok (location, .file content mode) := by
  unfold Files.read at read
  split at read
  · cases read
  · cases read
  next location _ mode found =>
    cases read
    exact ⟨location, mode, found⟩

namespace Batch

/-! ### Steps that record no result -/

theorem keepsTally_send (surroundings : Surroundings) (records : List Log.Record) :
    Keeps State.tally (send surroundings records) := fun _ => rfl

theorem keepsTally_setFiles (files : Files) : Keeps State.tally (setFiles files) := fun _ => rfl

theorem keepsTally_writeBack (surroundings : Surroundings) (path : String)
    (outcome : Sweep.Outcome) :
    Keeps State.tally (writeBack surroundings path outcome) := by
  unfold writeBack
  apply Keeps.bind keeps_get
  intro state
  dsimp only
  split
  · apply Keeps.bind (keepsTally_setFiles _)
    intro _
    split
    · exact Keeps.bind (fun _ => rfl) fun _ => keeps_pure _
    · exact keeps_pure _
  · apply Keeps.bind (keepsTally_setFiles _)
    intro _
    split
    · exact Keeps.bind (keeps_throw _) fun _ =>
        Keeps.bind (keepsTally_send _ _) fun _ => keeps_pure _
    · exact Keeps.bind (keepsTally_send _ _) fun _ => keeps_pure _

theorem keepsTally_sweepFile (surroundings : Surroundings) (plan : Plan) (dryRun : Bool)
    (path : String) :
    Keeps State.tally (sweepFile surroundings plan dryRun path) := by
  unfold sweepFile
  apply Keeps.bind keeps_get
  intro state
  split
  · split
    · exact Keeps.bind (keeps_throw _) fun _ =>
        Keeps.bind (keepsTally_send _ _) fun _ => keeps_pure _
    · exact Keeps.bind (keepsTally_send _ _) fun _ => keeps_pure _
  · apply Keeps.bind (keepsTally_send _ _)
    intro _
    split
    · exact keeps_throw _
    · exact keeps_throw _
    · exact Keeps.bind (keepsTally_send _ _) fun _ => keeps_pure _
    · split
      · exact keeps_pure _
      split
      · exact Keeps.bind (keepsTally_send _ _) fun _ => keeps_pure _
      · exact keepsTally_writeBack _ _ _

theorem keepsTally_writeReport (surroundings : Surroundings) (settings : Settings)
    (results : List FileResult) :
    Keeps State.tally (writeReport surroundings settings results) := by
  unfold writeReport
  split
  · split
    · apply Keeps.bind keeps_get
      intro state
      apply Keeps.bind (keepsTally_setFiles _)
      intro _
      split
      · exact keeps_throw _
      · exact keepsTally_send _ _
    · exact keeps_pure _
  · split
    · exact keeps_throw _
    · exact keeps_pure _

/-! ### Turns -/

structure Turn where
  path : String
  before : State
  result : FileResult
  after : State
  /-- How many lines the sweep deletes from the text of the file. -/
  deleted : Nat

namespace Turn

/-- The file is at the location, and the sweep gives it a text with so many lines fewer. -/
def Sweeps (plan : Plan) (turn : Turn) (location : Location) (text : Text) : Prop :=
  ∃ sweep content mode, plan.sweep? = some sweep ∧
    turn.before.files.find turn.path = .ok (location, .file content mode) ∧
    sweep.DeletesLines (Text.decode content) text turn.deleted

/-- A turn in which the result is right about the file, with one exception: the lines of a file that
could not be written count as removed. -/
structure Accounted (surroundings : Surroundings) (plan : Plan) (turn : Turn) : Prop where
  removed_eq : turn.result.removed = turn.deleted
  rewritten : turn.result.status = .modified → ∃ location text mode,
    turn.Sweeps plan location text ∧
    turn.after.files.tree.get? location = some (.file text.encode mode)
  unwritten : turn.result.status ≠ .modified → Moves (fun _ => False) turn.before turn.after
  unchanged : turn.result.status = .unchanged → turn.deleted = 0
  failed : turn.result.status = .failed → turn.deleted = 0 ∨ ∃ location text fault,
    turn.Sweeps plan location text ∧
    writing surroundings turn.before.files turn.path text.encode = .error fault ∧
    turn.result.error = some fault.message

end Turn

variable {surroundings : Surroundings} {plan : Plan} {path : String} {location : Location}
  {content : Bytes} {mode : Nat} {state after : State} {result : FileResult}

theorem writeBack_eq_ok {outcome : Sweep.Outcome}
    (found : state.files.find path = .ok (location, .file content mode))
    (wrote : writeBack surroundings path outcome state = (.ok result, after)) :
    (result = swept path .modified outcome.summary ∧
      ∃ mode, after.files.tree.get? location = some (.file outcome.text.encode mode)) ∨
    ∃ fault, writing surroundings state.files path outcome.text.encode = .error fault ∧
      result = { swept path .modified outcome.summary with
        status := .failed, error := some fault.message } ∧
      Moves (fun _ => False) state after := by
  have place := replacePlace_of_find found
  unfold writing
  rcases replace_cases surroundings.stamps path outcome.text.encode (surroundings.moveFault path)
    state.files with
    ⟨fault, failed⟩ | ⟨target, files, target_eq, done, present, -⟩
  · by_cases reported : fault.isReported = true
    · rw [writeBack_of_error failed reported] at wrote
      cases wrote
      exact .inr ⟨fault, congrArg Prod.fst failed, rfl,
        (withFiles_moves (.refl _ state.files)).trans (sent_moves _ surroundings _)⟩
    · simp only [writeBack, bind_apply, get_apply, failed, setFiles_apply, reported,
        Bool.not_false, if_true, throw_apply] at wrote
      cases wrote
  · obtain rfl : location = target := Except.ok.inj (place.symm.trans target_eq)
    rw [writeBack_of_ok done place] at wrote
    cases wrote
    exact .inl ⟨rfl, _, present⟩

/-- The turn of a file for which the sweep deletes nothing and nothing is written. -/
theorem Turn.accounted_of_quiet (moves : Moves (fun _ => False) state after)
    (unmodified : result.status ≠ .modified) (none : result.removed = 0) :
    Turn.Accounted surroundings plan ⟨path, state, result, after, 0⟩ where
  removed_eq := none
  rewritten := fun modified => absurd modified unmodified
  unwritten := fun _ => moves
  unchanged := fun _ => rfl
  failed := fun _ => .inl rfl

theorem sweepFile_accounted
    (done : sweepFile surroundings plan false path state = (.ok result, after)) :
    ∃ deleted, Turn.Accounted surroundings plan ⟨path, state, result, after, deleted⟩ := by
  unfold sweepFile at done
  rw [bind_apply, get_apply] at done
  dsimp only at done
  cases read : state.files.read path with
  | error fault =>
      by_cases reported : fault.isReported = true
      · simp only [read, reported, bind_apply, send_apply, pure_apply, Bool.not_true,
          Bool.false_eq_true, if_false] at done
        cases done
        exact ⟨0, Turn.accounted_of_quiet (sent_moves state surroundings _) nofun rfl⟩
      · simp only [read, reported, bind_apply, throw_apply, Bool.not_false, if_true] at done
        cases done
  | ok content =>
      obtain ⟨location, mode, found⟩ := exists_find_of_read read
      simp only [read, bind_apply, send_apply] at done
      have logged := sent_moves state surroundings (plan.log (Text.decode content))
      generalize state.sent surroundings (plan.log (Text.decode content)) = next at logged done
      cases ran : plan.run (Text.decode content) with
      | error fault =>
          rcases fault with (fault | offset) | fault
          · simp only [ran, bind_apply, send_apply, pure_apply] at done
            cases done
            exact ⟨0, Turn.accounted_of_quiet (logged.trans (sent_moves next surroundings _))
              nofun rfl⟩
          · simp only [ran, throw_apply] at done
            cases done
          · simp only [ran, throw_apply] at done
            cases done
      | ok outcome =>
          obtain ⟨sweep, sweep_eq, swept⟩ := plan.exists_sweep_of_run ran
          simp only [ran, Bool.false_eq_true, if_false] at done
          by_cases same : outcome.text = Text.decode content
          · have removed := Sweep.removed_of_unchanged swept same
            simp only [same, if_true, pure_apply] at done
            cases done
            exact ⟨0, Turn.accounted_of_quiet logged nofun (congrArg Nat.cast removed)⟩
          · rw [if_neg same] at done
            -- the records may have gone to this very file, so that it holds more by now
            obtain ⟨content', mode', still⟩ := logged.rewrites.exists_find found
            have sweeps {result : FileResult} {after : State} :
                Turn.Sweeps plan ⟨path, state, result, after, outcome.summary.removed⟩ location
                  outcome.text :=
              ⟨sweep, content, mode, sweep_eq, found, Sweep.deletesLines_of_run swept⟩
            refine ⟨outcome.summary.removed, ?_⟩
            rcases writeBack_eq_ok still done with
                ⟨rfl, mode, present⟩ | ⟨fault, failed, rfl, moves⟩
            · exact
                { removed_eq := rfl
                  rewritten := fun _ => ⟨location, outcome.text, mode, sweeps, present⟩
                  unwritten := fun unmodified => absurd rfl unmodified
                  unchanged := nofun
                  failed := nofun }
            · rw [logged.writing_eq] at failed
              exact
                { removed_eq := rfl
                  rewritten := nofun
                  unwritten := fun _ => logged.trans moves
                  unchanged := nofun
                  failed := fun _ => .inr ⟨location, outcome.text, fault, sweeps, failed, rfl⟩ }

/-! ### Whole batches -/

/-- The turns of files one after another, with the report of each result. -/
inductive Turns (surroundings : Surroundings) (plan : Plan) :
    Progress → State → List Turn → State → Prop where
  | none (progress : Progress) (state : State) : Turns surroundings plan progress state [] state
  | next {progress : Progress} (turn : Turn) {rest : List Turn} {last : State}
    (done : sweepFile surroundings plan false turn.path turn.before = (.ok turn.result, turn.after))
    (later : Turns surroundings plan progress.next
      (turn.after.reported surroundings progress.next turn.result) rest last) :
    Turns surroundings plan progress turn.before (turn :: rest) last

theorem Turns.tally_eq {progress : Progress} {turns : List Turn} {last : State}
    (taken : Turns surroundings plan progress state turns last) :
    last.tally = (turns.map Turn.result).foldl Tally.record state.tally := by
  induction taken with
  | none => rfl
  | next turn done _ inductionHypothesis =>
      have kept := keepsTally_sweepFile surroundings plan false turn.path turn.before
      rw [done] at kept
      rw [inductionHypothesis, List.map_cons, List.foldl_cons, State.reported, ← kept]
      rfl

/-- A batch takes turns, each of which is accounted for; a fault ends it between two of them or
within one that records nothing. -/
theorem sweepFiles_turns {sources : List String} {progress : Progress} {state final : State}
    {ended : Except Fault (List FileResult)}
    (ran : sweepFiles surroundings plan false progress sources state = (ended, final)) :
    ∃ turns last, Turns surroundings plan progress state turns last ∧
      (∀ turn ∈ turns, turn.Accounted surroundings plan) ∧
      final.tally = last.tally ∧ ∀ results, ended = .ok results →
      results = turns.map Turn.result := by
  induction sources generalizing progress state final ended with
  | nil =>
      cases ran
      refine ⟨[], state, .none progress state, by simp, rfl, ?_⟩
      intro results same
      cases same
      rfl
  | cons path rest inductionHypothesis =>
      have kept := keepsTally_sweepFile surroundings plan false path state
      rcases swept : sweepFile surroundings plan false path state with ⟨fault | result, after⟩
      · rw [swept] at kept
        simp only [sweepFiles, bind_apply, swept] at ran
        cases ran
        exact ⟨[], state, .none progress state, by simp, kept, by simp⟩
      · obtain ⟨deleted, accounted⟩ := sweepFile_accounted swept
        rcases later : sweepFiles surroundings plan false progress.next rest
          (after.reported surroundings progress.next result) with ⟨others, last⟩
        obtain ⟨turns, last, taken, each, tally, results_eq⟩ := inductionHypothesis later
        rw [sweepFiles_cons_apply swept, later] at ran
        cases ran
        refine ⟨⟨path, state, result, after, deleted⟩ :: turns, last,
          .next ⟨path, state, result, after, deleted⟩ swept taken,
          List.forall_mem_cons.mpr ⟨accounted, each⟩, tally, ?_⟩
        intro all same
        obtain ⟨results, ended, rfl⟩ := map_eq_ok_iff.mp same
        rw [results_eq results ended, List.map_cons]

def conclude (surroundings : Surroundings) (settings : Settings) (results : List FileResult) :
    Action (List FileResult) := do
  writeReport surroundings settings results
  send surroundings (tallyRecords (← get).tally)
  return results

theorem keepsTally_conclude (surroundings : Surroundings) (settings : Settings)
    (results : List FileResult) :
    Keeps State.tally (conclude surroundings settings results) :=
  Keeps.bind (keepsTally_writeReport surroundings settings results) fun _ =>
    Keeps.bind keeps_get fun _ => Keeps.bind (keepsTally_send _ _) fun _ => keeps_pure _

theorem conclude_eq_ok {settings : Settings} {results all : List FileResult}
    (done : (conclude surroundings settings results state).1 = .ok all) : all = results := by
  unfold conclude at done
  rw [bind_apply] at done
  generalize writeReport surroundings settings results state = ended at done
  obtain ⟨fault | _, after⟩ := ended
  · cases done
  · cases done
    rfl

theorem run_apply (surroundings : Surroundings) (settings : Settings) (plan : Plan)
    (paths : List String) (state : State) :
    run surroundings settings plan paths state =
      match extensionTexts settings with
      | .error fault => (.error fault, state)
      | .ok extensions =>
        match Source.collect state.files paths extensions with
        | (.error fault, log) => (.error (.file fault), state.sent surroundings log)
        | (.ok sources, log) =>
          (sweepFiles surroundings plan settings.dryRun.truthy ⟨sources.length, 50, 0⟩ sources >>=
            conclude surroundings settings)
          ((state.sent surroundings log).sent surroundings [processing sources.length]) := by
  unfold run
  rw [bind_apply, liftM_apply]
  cases extensionTexts settings with
  | error fault => rfl
  | ok extensions =>
      dsimp only
      rw [bind_apply, get_apply]
      dsimp only
      rcases Source.collect state.files paths extensions with ⟨fault | sources, log⟩ <;> rfl

theorem run_turns {settings : Settings} (wet : settings.dryRun.truthy = false) (paths : List String)
    (state : State) :
    ∃ begun progress turns last, Moves (fun _ => False) state begun ∧
      Turns surroundings plan progress begun turns last ∧
      (∀ turn ∈ turns, turn.Accounted surroundings plan) ∧
      (run surroundings settings plan paths state).2.tally =
        (turns.map Turn.result).foldl Tally.record state.tally ∧
      ∀ results, (run surroundings settings plan paths state).1 = .ok results →
        results = turns.map Turn.result := by
  rw [run_apply, wet]
  split
  · exact ⟨state, ⟨0, 50, 0⟩, [], state, .refl _ state, .none _ state, by simp, rfl, nofun⟩
  split
  · exact ⟨state, ⟨0, 50, 0⟩, [], state, .refl _ state, .none _ state, by simp, rfl, nofun⟩
  next sources log _ =>
    have begun := (sent_moves state surroundings log).trans
      (sent_moves _ surroundings [processing sources.length])
    rcases ran : sweepFiles surroundings plan false ⟨sources.length, 50, 0⟩ sources
      ((state.sent surroundings log).sent surroundings [processing sources.length]) with
      ⟨ended, final⟩
    obtain ⟨turns, last, taken, each, tally, results_eq⟩ := sweepFiles_turns ran
    refine ⟨_, _, turns, last, begun, taken, each, ?_⟩
    have counted := tally.trans taken.tally_eq
    rw [bind_apply, ran]
    cases ended with
    | error fault => exact ⟨counted, nofun⟩
    | ok results =>
        refine ⟨(keepsTally_conclude surroundings settings results final).trans counted, ?_⟩
        intro all done
        rw [conclude_eq_ok done]
        exact results_eq results rfl

/-- The number of lines that were deleted in the turns whose results have this status. -/
def deletedIn (turns : List Turn) (status : Status) : Nat :=
  ((turns.filter fun turn => turn.result.status = status).map Turn.deleted).sum

theorem deletedIn_eq_zero_iff {turns : List Turn} {status : Status} :
    deletedIn turns status = 0 ↔
      ∀ turn ∈ turns, turn.result.status = status → turn.deleted = 0 := by
  simp only [deletedIn, List.sum_eq_zero_iff_forall_eq_nat, List.forall_mem_map, List.mem_filter,
    and_imp, decide_eq_true_eq]

theorem deletedIn_cons (turn : Turn) (rest : List Turn) (status : Status) :
    deletedIn (turn :: rest) status =
      (if turn.result.status = status then turn.deleted else 0) + deletedIn rest status := by
  unfold deletedIn
  rw [List.filter_cons]
  by_cases same : turn.result.status = status
  · simp [same]
  · simp [same]

/-- A turn that neither rewrote its file nor failed to do so deleted no line. -/
theorem removed_sum {turns : List Turn} (each : ∀ turn ∈ turns, turn.Accounted surroundings plan) :
    ((turns.map Turn.result).map FileResult.removed).sum =
      (deletedIn turns .modified : Int) + deletedIn turns .failed := by
  induction turns with
  | nil => rfl
  | cons turn rest inductionHypothesis =>
      obtain ⟨here, others⟩ := List.forall_mem_cons.mp each
      rw [List.map_cons, List.map_cons, List.sum_cons, inductionHypothesis others, here.removed_eq,
        deletedIn_cons, deletedIn_cons]
      cases status : turn.result.status with
      | modified =>
          simp only [if_true, reduceCtorEq, if_false]
          omega
      | unchanged =>
          simp only [here.unchanged status, reduceCtorEq, if_false]
          omega
      | failed =>
          simp only [if_true, reduceCtorEq, if_false]
          omega

theorem collect_of_file {files : Files} (extensions : List String)
    (found : files.find path = .ok (location, .file content mode))
    (text : (Path.ofString path).text = path) :
    (Source.collect files [path] extensions).1 = .ok [path] := by
  have alone : [path].eraseDups = [path] := by
    rw [List.eraseDups_cons, List.filter_nil, List.eraseDups_nil]
  have expanded : Source.expand files (extensions.map lowerCase) path = .ok (some [path]) := by
    simp only [Source.expand, text, lookFor, found]
    rfl
  simp only [Source.collect, Source.expandAll, expanded, Except.map, Option.getD_some,
    List.append_nil, alone]

theorem run_of_one {settings : Settings} {extensions : List String} (sweep : Sweep)
    (textual : settings.IsTextual extensions) (unreported : settings.reportFile.truthy = false)
    (found : state.files.find path = .ok (location, .file content mode))
    (text : (Path.ofString path).text = path)
    (unlogged : ¬ state.desk.sink.Logs location) (named : state.files.IsNamed)
    (moveFault : surroundings.moveFault path ≠ some .noPath)
    (result_eq : verdict sweep settings.dryRun.truthy path content
      (writing surroundings state.files path) = some result) :
    ∃ after, run surroundings settings (.ready sweep) [path] state = (.ok [result], after) ∧
      after.tally = state.tally.record result ∧
      Leaves sweep settings.dryRun.truthy content mode result (after.files.tree.get? location) := by
  have sources := collect_of_file extensions found text
  rcases collected : Source.collect state.files [path] extensions with ⟨ended, log⟩
  rw [collected] at sources
  cases sources
  have begun := (sent_moves state surroundings log).trans
    (sent_moves _ surroundings [processing [path].length])
  generalize next_eq : (state.sent surroundings log).sent surroundings
    [processing [path].length] = next at begun
  have tally_eq : next.tally = state.tally := by
    rw [← next_eq]
    rfl
  have stillUnlogged : ¬ next.desk.sink.Logs location :=
    fun logs => unlogged (begun.logs location logs)
  have roomy : sweep.HasRoom (Text.decode content) := by
    intro offset ran
    rw [verdict, ran] at result_eq
    cases result_eq
  obtain ⟨_, middle, swept, same, moved, left⟩ := sweepFile_eq sweep settings.dryRun.truthy
    (begun.find_eq id unlogged found) stillUnlogged (begun.isNamed named) moveFault roomy
  rw [begun.writing_eq, result_eq] at same
  cases same
  have kept := keepsTally_sweepFile surroundings (.ready sweep) settings.dryRun.truthy path next
  rw [swept, tally_eq] at kept
  have ran : sweepFiles surroundings (.ready sweep) settings.dryRun.truthy ⟨[path].length, 50, 0⟩
      [path] next = (.ok [result], middle.reported surroundings
        (Progress.mk [path].length 50 0).next result) :=
    sweepFiles_cons_apply swept
  rw [← next_eq] at ran
  have quiet :=
    (reported_moves middle surroundings (Progress.mk [path].length 50 0).next result).trans
    (sent_moves _ surroundings (tallyRecords (middle.reported surroundings
      (Progress.mk [path].length 50 0).next result).tally))
  refine ⟨_, run_of_collected (extensionTexts_of_textual textual) collected ran unreported,
    congrArg (Tally.record · result) kept, ?_⟩
  rw [quiet.get?_eq id fun logs => stillUnlogged (moved.logs location logs)]
  exact left

/-- A file beside which there is a place for a temporary file can be replaced unless the last step
fails. -/
theorem writing_of_free {files : Files} {temporary : String × Location}
    (free : files.freePlace (Path.ofString path) surroundings.stamps = .ok temporary)
    (found : files.find path = .ok (location, .file content mode))
    (text : (Path.ofString path).text = path) (bytes : Bytes) :
    writing surroundings files path bytes =
      match surroundings.moveFault path with
      | none => .ok ()
      | some cause => .error ⟨cause, []⟩ := by
  obtain ⟨vacant, named⟩ := of_freePlace_eq_ok free
  have admitted := (find_eq_ok_iff.mp found).1
  have place := (replacePlace_put_iff vacant [] privateMode named).mpr
    (replacePlace_of_find found)
  unfold writing replace
  rw [replaceAmid_eq, free]
  cases surroundings.moveFault path with
  | none =>
      simp [risk, grantedMode, landing, text, lookFor, found, admitted, beside, place, Except.map]
  | some cause => simp [risk, grantedMode, landing, text, lookFor, found, Except.map]

theorem freePlace_alone (content : Bytes) (mode : Nat) :
    Files.freePlace { tree := ⟨[(["a"], .file content mode)]⟩ } (Path.ofString "a") calm.stamps =
      .ok ("//.a.0.tmp", [".a.0.tmp"]) := by
  have path : Path.ofString "a" = ⟨0, ["a"]⟩ := by decide +kernel
  have admitted : admitPath "//.a.0.tmp" = .ok () :=
    admitPath_eq_ok_iff.mpr (by decide +kernel)
  have beside : Files.temporaryPlace { tree := ⟨[(["a"], .file content mode)]⟩ } ⟨0, ["a"]⟩
      ⟨"0", rfl⟩ = ("//.a.0.tmp", .ok (.vacant [".a.0.tmp"])) := by
    have atRoot : Files.absoluteText {} ⟨0, [".a.0.tmp"]⟩ = "//.a.0.tmp" := by
      decide +kernel
    have text : Files.absoluteText { tree := ⟨[(["a"], .file content mode)]⟩ }
      ⟨0, [".a.0.tmp"]⟩ = "//.a.0.tmp" := atRoot
    have name : temporaryName ⟨0, ["a"]⟩ ⟨"0", rfl⟩ = ".a.0.tmp" := by decide +kernel
    unfold temporaryPlace
    simp only [Path.parent, List.dropLast_singleton, List.nil_append, name, text, admitted]
    rfl
  rw [path, calm, freePlace, beside]

/-- However a batch that is no dry run ends, what it counts as removed warnings is the number of
lines that were deleted from the files that it rewrote, and the number of those that the sweep
deleted from texts which could not be written back; such a file is left as it is.  So the number is
the one of the rewritten files just when no text that could not be written had lost a line.  The
report shows the same number. -/
theorem removed_exact (surroundings : Surroundings) (settings : Settings) (plan : Plan)
    (paths : List String) (state : State) (wet : settings.dryRun.truthy = false) :
    let ended := run surroundings settings plan paths state
    ∃ begun progress turns last, Moves (fun _ => False) state begun ∧
      Turns surroundings plan progress begun turns last ∧
      (∀ turn ∈ turns, turn.Accounted surroundings plan) ∧
      (∀ results, ended.1 = .ok results → results = turns.map Turn.result) ∧
      ended.2.tally.removed =
        state.tally.removed + deletedIn turns .modified + deletedIn turns .failed ∧
      (ended.2.tally.removed = state.tally.removed + deletedIn turns .modified ↔
        ∀ turn ∈ turns, turn.result.status = .failed → turn.deleted = 0) ∧
      ∀ generated book, Report.workbook generated (turns.map Turn.result) = .ok book →
        Report.rowOf book "Summary" 10 = Report.fromFirst [.text "Warnings removed",
          Report.numberCell (deletedIn turns .modified + deletedIn turns .failed)] := by
  intro ended
  obtain ⟨begun, progress, turns, last, moves, taken, each, tally, results_eq⟩ :=
    run_turns wet paths state
  have sum := removed_sum each
  have removed : ended.2.tally.removed =
      state.tally.removed + deletedIn turns .modified + deletedIn turns .failed := by
    rw [tally, Tally.foldl_record_removed, sum, Int.add_assoc]
  refine ⟨begun, progress, turns, last, moves, taken, each, results_eq, removed, ?_, ?_⟩
  · rw [← deletedIn_eq_zero_iff, removed]
    omega
  · intro generated book made
    rw [← sum]
    exact Report.removedRow_of_workbook made

/-- A warning that is deleted from a file that is rewritten counts once. -/
theorem removed_exact_of_rewritten :
    let settings : Settings :=
      { startMarker := .str "<", stopMarker := .str ">", warningHead := .str "#w" }
    let sweep : Sweep := ⟨⟨"<", ">", by decide, by decide, by decide⟩, "#w", {}, 900⟩
    let files : Files := { tree := ⟨[(["a"], .file [35, 119, 10, 60, 34, 34, 62] 0o640)]⟩ }
    let start : State := { desk := { files } }
    settings.dryRun.truthy = false ∧ ∃ results after turns,
      run calm settings (.ready sweep) ["a"] start = (.ok results, after) ∧
      after.files.tree.get? ["a"] = some (.file [34, 34] 0o640) ∧
      results = turns.map Turn.result ∧ after.tally.removed = deletedIn turns .modified ∧
      after.tally.removed = 1 := by
  intro settings sweep files start
  have found : start.files.find "a" =
      .ok (["a"], .file [35, 119, 10, 60, 34, 34, 62] 0o640) :=
    find_eq_ok_iff.mpr ⟨admitPath_eq_ok_iff.mpr (by decide +kernel), by decide +kernel,
      .inr (by decide +kernel)⟩
  have text : (Path.ofString "a").text = "a" := by decide +kernel
  have ran : sweep.run (Text.decode [35, 119, 10, 60, 34, 34, 62]) =
      .ok ⟨[.char '"', .char '"'], ⟨1, 0, 1⟩⟩ := by
    decide +kernel
  have written : writing calm files "a" (Text.encode [.char '"', .char '"']) = .ok () :=
    writing_of_free (freePlace_alone _ _) found text _
  have modified : verdict sweep false "a" [35, 119, 10, 60, 34, 34, 62] (writing calm files "a") =
      some (swept "a" .modified ⟨1, 0, 1⟩) := by
    rw [verdict, ran]
    dsimp only
    rw [if_neg (by decide +kernel), written, if_neg (by decide)]
  have textual : settings.IsTextual [".m", ".mm", ".h", ".c", ".cpp"] :=
    ⟨⟨_, rfl⟩, ⟨_, rfl⟩, ⟨_, rfl⟩, ⟨_, rfl⟩, ⟨_, rfl⟩⟩
  have unlogged : ¬ start.desk.sink.Logs ["a"] := by
    rintro ⟨_, none⟩
    cases none
  obtain ⟨after, alone, tally, left⟩ := run_of_one sweep textual rfl found
    text unlogged (by decide +kernel) (by simp [calm]) modified
  obtain ⟨_, _, turns, _, -, -, -, results_eq, exact, -⟩ :=
    removed_exact calm settings (.ready sweep) ["a"] start rfl
  have results := results_eq _ (congrArg Prod.fst alone)
  rw [alone] at exact
  have unwritten : deletedIn turns .failed = 0 := by
    apply deletedIn_eq_zero_iff.mpr
    intro turn member failed
    have among := List.mem_map_of_mem (f := Turn.result) member
    rw [← results, List.mem_singleton] at among
    rw [among] at failed
    cases failed
  rw [Leaves, if_pos ⟨rfl, rfl⟩] at left
  obtain ⟨_, again, entry⟩ := left
  cases ran.symm.trans again
  refine ⟨rfl, _, after, turns, alone, entry, results, ?_, congrArg Tally.removed tally⟩
  rw [exact, unwritten]
  simp [start]

/-- A warning of a file that could not be written counts, although it is still there. -/
theorem failed_write_counted :
    let settings : Settings :=
      { startMarker := .str "<", stopMarker := .str ">", warningHead := .str "#w" }
    let sweep : Sweep := ⟨⟨"<", ">", by decide, by decide, by decide⟩, "#w", {}, 900⟩
    let files : Files := { tree := ⟨[(["a"], .file [35, 119, 10, 60, 34, 34, 62] 0o640)]⟩ }
    let surroundings : Surroundings := { calm with moveFault := fun _ => some .noSpace }
    ∃ result after,
      run surroundings settings (.ready sweep) ["a"] { desk := { files } } = (.ok [result], after) ∧
      result.status = .failed ∧ after.files.tree.get? ["a"] = files.tree.get? ["a"] ∧
      after.tally.removed = 1 := by
  intro settings sweep files surroundings
  let start : State := { desk := { files } }
  have found : start.files.find "a" =
      .ok (["a"], .file [35, 119, 10, 60, 34, 34, 62] 0o640) :=
    find_eq_ok_iff.mpr ⟨admitPath_eq_ok_iff.mpr (by decide +kernel), by decide +kernel,
      .inr (by decide +kernel)⟩
  have text : (Path.ofString "a").text = "a" := by decide +kernel
  have ran : sweep.run (Text.decode [35, 119, 10, 60, 34, 34, 62]) =
      .ok ⟨[.char '"', .char '"'], ⟨1, 0, 1⟩⟩ := by
    decide +kernel
  have free : Files.freePlace start.files (Path.ofString "a") surroundings.stamps =
      .ok ("//.a.0.tmp", [".a.0.tmp"]) := freePlace_alone _ _
  have unwritten : writing surroundings files "a" (Text.encode [.char '"', .char '"']) =
      .error ⟨.noSpace, []⟩ :=
    writing_of_free free found text _
  have failed : verdict sweep false "a" [35, 119, 10, 60, 34, 34, 62]
      (writing surroundings files "a") = some { swept "a" .modified ⟨1, 0, 1⟩ with
        status := .failed, error := some (FileFault.mk .noSpace []).message } := by
    rw [verdict, ran]
    dsimp only
    rw [if_neg (by decide +kernel), unwritten, if_neg (by decide)]
  have textual : settings.IsTextual [".m", ".mm", ".h", ".c", ".cpp"] :=
    ⟨⟨_, rfl⟩, ⟨_, rfl⟩, ⟨_, rfl⟩, ⟨_, rfl⟩, ⟨_, rfl⟩⟩
  have unlogged : ¬ start.desk.sink.Logs ["a"] := by
    rintro ⟨_, none⟩
    cases none
  obtain ⟨after, alone, tally, left⟩ := run_of_one sweep textual rfl
    found text unlogged (by decide +kernel) (by simp [surroundings]) failed
  rw [Leaves, if_neg (by simp)] at left
  exact ⟨_, after, alone, rfl, left, congrArg Tally.removed tally⟩

end Batch

end WarningSweep
