import WarningSweep.Batch.Run
import WarningSweep.Proofs.Files.Fault
import WarningSweep.Proofs.Log.Frame
import WarningSweep.Proofs.Sweep.Basic

/-!
# One file of a batch

What a batch makes of a file depends on the path of the file, its bytes and the end of writing it
back.  Besides the file, only log files are changed.
-/

namespace WarningSweep

namespace Files

variable {files : Files} {path : String} {location : Location} {content : Bytes} {mode : Nat}

theorem replacePlace_of_find (found : files.find path = .ok (location, .file content mode)) :
    files.replacePlace (Path.ofString path) = .ok location := by
  obtain ⟨-, walked, -⟩ := find_eq_ok_iff.mp found
  simp only [replacePlace, Path.ofString, walked]

theorem get?_of_find (found : files.find path = .ok (location, .file content mode)) :
    files.tree.get? location = some (.file content mode) := by
  obtain ⟨-, walked, -⟩ := find_eq_ok_iff.mp found
  exact Tree.get?_of_walk_found (walk_eq_ok_iff.mp walked)

/-- A path leads to the same file as long as that file is not rewritten. -/
theorem Rewrites.find_eq {changed : Location → Prop} {after : Files}
    (rewrites : Rewrites changed files after) (outside : ¬ changed location)
    (found : files.find path = .ok (location, .file content mode)) :
    after.find path = .ok (location, .file content mode) := by
  have entry := (rewrites.get?_eq location outside).trans (get?_of_find found)
  obtain ⟨admitted, walked, kind⟩ := find_eq_ok_iff.mp found
  refine find_eq_ok_iff.mpr ⟨admitted, ?_, kind⟩
  rcases Tree.Stop.cases_of_view_eq (rewrites.filesAlike.walk_view (leadingSlashes path)
      (pathNames path)) with ⟨_, one, -⟩ | ⟨_, one, -⟩ | ⟨place, _, other, one, two, kinds⟩
  · rw [walked] at one
    cases one
  · rw [walked] at one
    cases one
  · rw [walked] at one
    cases one
    cases other with
    | directory => cases kinds
    | file content' mode' =>
        have now := Tree.get?_of_walk_found (walk_eq_ok_iff.mp two)
        rw [entry] at now
        cases now
        exact two

end Files

namespace Batch

open Operation Files

/-- What becomes of a file, by its path, its bytes and the end of writing them back.  There is no
result where there is no room for its regions. -/
def verdict (sweep : Sweep) (dryRun : Bool) (path : String) (bytes : Bytes)
    (write : Bytes → Except FileFault Unit) : Option FileResult :=
  match sweep.run (Text.decode bytes) with
  | .error (.tooDeep _) => none
  | .error (.markers fault) => some (failure path fault.message)
  | .ok outcome =>
    if outcome.text = Text.decode bytes then some (swept path .unchanged outcome.summary)
    else if dryRun then some (swept path .modified outcome.summary)
    else
      match write outcome.text.encode with
      | .ok () => some (swept path .modified outcome.summary)
      | .error fault =>
        some { swept path .modified outcome.summary with
          status := .failed, error := some fault.message }

def writing (surroundings : Surroundings) (files : Files) (path : String) (bytes : Bytes) :
    Except FileFault Unit :=
  (Files.replace surroundings.stamps path bytes (surroundings.moveFault path) files).1

def calm : Surroundings := { stamps := [⟨"0", rfl⟩], saved := fun _ => [] }

/-- The entry of a file once it has been handled: new bytes if the file was modified, and else the
old ones. -/
def Leaves (sweep : Sweep) (dryRun : Bool) (content : Bytes) (mode : Nat) (result : FileResult)
    (entry : Option Entry) : Prop :=
  if result.status = .modified ∧ dryRun = false then
    ∃ outcome, sweep.run (Text.decode content) = .ok outcome ∧
      entry = some (.file outcome.text.encode mode)
  else entry = some (.file content mode)

/-- A step that rewrites certain files and log files. -/
structure Moves (changed : Location → Prop) (state after : State) : Prop where
  rewrites : Rewrites (fun location => changed location ∨ state.desk.sink.Logs location)
    state.files after.files
  logs : ∀ location, after.desk.sink.Logs location → state.desk.sink.Logs location

namespace Moves

variable {changed : Location → Prop} {first second third : State}

theorem refl (changed : Location → Prop) (state : State) : Moves changed state state :=
  ⟨.refl _ state.files, fun _ logs => logs⟩

theorem trans (one : Moves changed first second) (two : Moves changed second third) :
    Moves changed first third where
  rewrites := by
    refine one.rewrites.trans (two.rewrites.weaken ?_)
    rintro location (inside | logs)
    · exact .inl inside
    · exact .inr (one.logs location logs)
  logs := fun location logs => one.logs location (two.logs location logs)

theorem weaken {more : Location → Prop} (moves : Moves changed first second)
    (within : ∀ location, changed location → more location) : Moves more first second where
  rewrites := moves.rewrites.weaken fun location => Or.imp_left (within location)
  logs := moves.logs

theorem get?_eq (moves : Moves changed first second) {location : Location}
    (unchanged : ¬ changed location) (unlogged : ¬ first.desk.sink.Logs location) :
    second.files.tree.get? location = first.files.tree.get? location :=
  moves.rewrites.get?_eq location fun inside => inside.elim unchanged unlogged

theorem find_eq (moves : Moves changed first second) {path : String} {location : Location}
    {content : Bytes} {mode : Nat} (unchanged : ¬ changed location)
    (unlogged : ¬ first.desk.sink.Logs location)
    (found : first.files.find path = .ok (location, .file content mode)) :
    second.files.find path = .ok (location, .file content mode) :=
  moves.rewrites.find_eq (fun inside => inside.elim unchanged unlogged) found

theorem isNamed (moves : Moves changed first second) (named : first.files.IsNamed) :
    second.files.IsNamed where
  here := by
    rw [moves.rewrites.here_eq]
    exact named.here
  hereText := by
    rw [moves.rewrites.hereText_eq]
    exact named.hereText

theorem writing_eq (moves : Moves changed first second) (surroundings : Surroundings)
    (path : String) :
    writing surroundings second.files path = writing surroundings first.files path :=
  funext fun bytes => (moves.rewrites.filesAlike.replace_fst_eq _ path bytes _).symm

end Moves

namespace State

def withFiles (state : State) (files : Files) : State :=
  { state with desk := { state.desk with files } }

def sent (state : State) (surroundings : Surroundings) (records : List Log.Record) : State :=
  { state with
    desk := state.desk.emitAll surroundings.logTime records
    log := state.log ++ records }

/-- The state after another file has taken the place of the one at a location. -/
def lost (state : State) (location : Location) : State :=
  { state with desk := { state.desk with sink := state.desk.sink.lose location } }

end State

@[simp]
theorem setFiles_apply (files : Files) (state : State) :
    setFiles files state = (.ok (), state.withFiles files) := rfl

@[simp]
theorem send_apply (surroundings : Surroundings) (records : List Log.Record) (state : State) :
    send surroundings records state = (.ok (), state.sent surroundings records) := rfl

theorem sent_moves (state : State) (surroundings : Surroundings) (records : List Log.Record) :
    Moves (fun _ => False) state (state.sent surroundings records) := by
  have writes := state.desk.emitAll_writes surroundings.logTime records
  refine ⟨writes.rewrites.weaken fun location => Or.inr, ?_⟩
  intro location logs
  rw [← writes.sink_eq]
  exact logs

theorem withFiles_moves {changed : Location → Prop} {state : State} {files : Files}
    (rewrites : Rewrites changed state.files files) : Moves changed state (state.withFiles files) :=
  ⟨rewrites.weaken fun _ => Or.inl, fun _ logs => logs⟩

theorem lost_moves (state : State) (location : Location) :
    Moves (fun _ => False) state (state.lost location) :=
  ⟨.refl _ state.files, fun _ => Log.Sink.logs_of_logs_lose⟩

variable {surroundings : Surroundings} {path : String} {location : Location} {content : Bytes}
  {mode : Nat}

def unwritable (path : String) (fault : FileFault) : Log.Record :=
  Log.Channel.batch.error s!"{path}: cannot write: {fault.message}"

theorem writeBack_of_ok {state : State} {outcome : Sweep.Outcome} {after : Files}
    (done : replace surroundings.stamps path outcome.text.encode (surroundings.moveFault path)
      state.files = (.ok (), after))
    (place : state.files.replacePlace (Path.ofString path) = .ok location) :
    writeBack surroundings path outcome state =
      (.ok (swept path .modified outcome.summary), (state.withFiles after).lost location) := by
  simp only [writeBack, bind_apply, get_apply, done, setFiles_apply, place,
    modify_apply, pure_apply]
  rfl

theorem writeBack_of_error {state : State} {outcome : Sweep.Outcome} {after : Files}
    {fault : FileFault}
    (failed : replace surroundings.stamps path outcome.text.encode (surroundings.moveFault path)
      state.files = (.error fault, after)) (reported : fault.isReported = true) :
    writeBack surroundings path outcome state =
      (.ok { swept path .modified outcome.summary with
          status := .failed, error := some fault.message },
        (state.withFiles after).sent surroundings [unwritable path fault]) := by
  simp only [writeBack, bind_apply, get_apply, failed, setFiles_apply, reported, Bool.not_true,
    Bool.false_eq_true, if_false, send_apply, pure_apply]
  rfl

/-- All that writing back can do: the bytes are in the file, or the result tells why not and the
files are as before. -/
theorem writeBack_cases {state : State} (outcome : Sweep.Outcome)
    (found : state.files.find path = .ok (location, .file content mode))
    (named : state.files.IsNamed) (moves : surroundings.moveFault path ≠ some .noPath) :
    (∃ after, writing surroundings state.files path outcome.text.encode = .ok () ∧
      writeBack surroundings path outcome state =
        (.ok (swept path .modified outcome.summary), after) ∧
      Moves (· = location) state after ∧
      after.files.tree.get? location = some (.file outcome.text.encode mode)) ∨
    ∃ fault after, writing surroundings state.files path outcome.text.encode = .error fault ∧
      writeBack surroundings path outcome state =
        (.ok { swept path .modified outcome.summary with
          status := .failed, error := some fault.message }, after) ∧
      Moves (fun _ => False) state after := by
  have plain : IsNullFree path := (admitPath_eq_ok_iff.mp (find_eq_ok_iff.mp found).1).1
  have place := replacePlace_of_find found
  rw [writing]
  rcases replace_cases surroundings.stamps path outcome.text.encode (surroundings.moveFault path)
    state.files with
    ⟨fault, failed⟩ | ⟨target, after, target_eq, done, present, same⟩
  · have reported := isReported_of_replace named plain moves (congrArg Prod.fst failed)
    exact .inr ⟨fault, _, congrArg Prod.fst failed, writeBack_of_error failed reported,
      (withFiles_moves (.refl _ state.files)).trans (sent_moves _ surroundings _)⟩
  · obtain rfl : location = target := Except.ok.inj (place.symm.trans target_eq)
    have mode_eq : state.files.modeAt location = mode := by
      rw [modeAt, get?_of_find found]
      rfl
    rw [mode_eq] at present
    have rewrites := rewrites_of_get?_eq (get?_of_find found) present rfl same
    exact .inl ⟨_, congrArg Prod.fst done, writeBack_of_ok done place,
      (withFiles_moves rewrites).trans
        ((lost_moves _ location).weaken fun _ => False.elim), present⟩

@[simp]
theorem failure_status (path error : String) : (failure path error).status = .failed := rfl

@[simp]
theorem swept_status (path : String) (status : Status) (summary : Summary) :
    (swept path status summary).status = status := rfl

theorem leaves_of_eq {sweep : Sweep} {dryRun : Bool} {result : FileResult} {entry : Option Entry}
    (unmodified : ¬ (result.status = .modified ∧ dryRun = false))
    (same : entry = some (.file content mode)) : Leaves sweep dryRun content mode result entry := by
  rw [Leaves, if_neg unmodified]
  exact same

theorem sweepFile_of_read {state : State} (sweep : Sweep) (dryRun : Bool)
    (read : state.files.read path = .ok content) :
    let before := Text.decode content
    let next := state.sent surroundings (sweep.log before)
    sweepFile surroundings (.ready sweep) dryRun path state =
      match sweep.run before with
      | .error (.tooDeep _) => (.error (.tooDeep surroundings.depthMessage), next)
      | .error (.markers fault) => (.ok (failure path fault.message), next.sent surroundings
          [Log.Channel.batch.error
            s!"{path}: malformed markers, file left unmodified: {fault.message}"])
      | .ok outcome =>
        if outcome.text = before then (.ok (swept path .unchanged outcome.summary), next)
        else if dryRun then (.ok (swept path .modified outcome.summary), next.sent surroundings
          [Log.Channel.batch.info (Text.ofString s!"{path}: would be modified\n"
            ++ Source.diff path before outcome.text)])
        else writeBack surroundings path outcome next := by
  intro before next
  rw [sweepFile, bind_apply, get_apply]
  simp only [read, bind_apply, send_apply, Plan.run, Plan.log]
  cases sweep.run (Text.decode content) with
  | error fault => cases fault <;> rfl
  | ok outcome =>
      dsimp only [Except.mapError, before]
      split
      · rfl
      split
      · rfl
      · rfl

/-- The result of one file that there is room for, and what is left of it. -/
theorem sweepFile_eq {state : State} (sweep : Sweep) (dryRun : Bool)
    (found : state.files.find path = .ok (location, .file content mode))
    (unlogged : ¬ state.desk.sink.Logs location) (named : state.files.IsNamed)
    (moves : surroundings.moveFault path ≠ some .noPath)
    (roomy : sweep.HasRoom (Text.decode content)) :
    ∃ result after, sweepFile surroundings (.ready sweep) dryRun path state = (.ok result, after) ∧
      verdict sweep dryRun path content (writing surroundings state.files path) = some result ∧
      Moves (· = location) state after ∧
      Leaves sweep dryRun content mode result (after.files.tree.get? location) := by
  have read : state.files.read path = .ok content := by rw [Files.read, found]
  rw [sweepFile_of_read sweep dryRun read, verdict]
  have logged := sent_moves state surroundings (sweep.log (Text.decode content))
  generalize state.sent surroundings (sweep.log (Text.decode content)) = next at logged
  have stillFound := logged.find_eq id unlogged found
  -- a step that touches no file but log files leaves the entry as it is
  have kept {after : State} (quiet : Moves (fun _ => False) next after) :
      Moves (· = location) state after ∧
        after.files.tree.get? location = some (.file content mode) := by
    have whole := logged.trans quiet
    exact ⟨whole.weaken fun _ => False.elim, (whole.get?_eq id unlogged).trans (get?_of_find found)⟩
  rcases ran : sweep.run (Text.decode content) with (fault | offset) | outcome
  · obtain ⟨moved, same⟩ := kept (sent_moves next surroundings _)
    exact ⟨_, _, rfl, rfl, moved, leaves_of_eq (by simp) same⟩
  · exact absurd ran (roomy offset)
  · dsimp only
    split
    · obtain ⟨moved, same⟩ := kept (.refl _ next)
      exact ⟨_, _, rfl, rfl, moved, leaves_of_eq (by simp) same⟩
    split
    next dry =>
      obtain ⟨moved, same⟩ := kept (sent_moves next surroundings _)
      exact ⟨_, _, rfl, rfl, moved, leaves_of_eq (by simp [dry]) same⟩
    next wet =>
      rw [← logged.writing_eq]
      rcases writeBack_cases outcome stillFound (logged.isNamed named) moves with
        ⟨after, written, done, moved, present⟩ | ⟨fault, after, failed, done, quiet⟩
      · rw [written]
        refine ⟨_, after, done, rfl, (logged.weaken fun _ => False.elim).trans moved, ?_⟩
        rw [Leaves, if_pos (by simpa using wet)]
        exact ⟨outcome, ran, present⟩
      · rw [failed]
        obtain ⟨moved, same⟩ := kept quiet
        exact ⟨_, after, done, rfl, moved, leaves_of_eq (by simp) same⟩

/-- A file that there is no room for ends the batch, and only records are written. -/
theorem sweepFile_of_cramped {state : State} (sweep : Sweep) (dryRun : Bool)
    (read : state.files.read path = .ok content)
    (cramped : ¬ sweep.HasRoom (Text.decode content)) :
    ∃ after, sweepFile surroundings (.ready sweep) dryRun path state =
        (.error (.tooDeep surroundings.depthMessage), after) ∧
      Moves (fun _ => False) state after := by
  obtain ⟨offset, ran⟩ : ∃ offset, sweep.run (Text.decode content) = .error (.tooDeep offset) := by
    simpa [Sweep.HasRoom] using cramped
  refine ⟨_, ?_, sent_moves state surroundings (sweep.log (Text.decode content))⟩
  rw [sweepFile_of_read sweep dryRun read, ran]

end Batch

end WarningSweep
