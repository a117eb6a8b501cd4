import WarningSweep.Command.Run
import WarningSweep.Proofs.Files.Write
import WarningSweep.Proofs.Log.Frame

/-!
# Set-ups and records

After any set-ups and any records, what the next set-up leaves depends on nothing but its own wishes
and the working directory.  From then on every record that can be encoded is written once to each
place that was asked for, or nowhere.
-/

namespace WarningSweep

open Operation

theorem encodeString_append (first second : String) :
    encodeString (first ++ second) = encodeString first ++ encodeString second := by
  unfold encodeString
  rw [String.toList_append, List.flatMap_append]

namespace Tree

variable {tree : Tree} {location place : Location} {names : List String}

def follow (location : Location) (names : List String) : Location :=
  names.foldl (fun place name => if name = ".." then place.dropLast else place ++ [name]) location

/-- A walk to a file, or to where a file can be made, ends where its names lead. -/
theorem eq_follow_of_walk (stopped : tree.walk location names = .ok (.vacant place) ∨
    ∃ content mode, tree.walk location names = .ok (.found place (.file content mode))) :
    place = follow location names := by
  induction names generalizing location with
  | nil => simp [walk] at stopped
  | cons name rest inductionHypothesis =>
      rw [follow, List.foldl_cons]
      rcases tree.walk_cons_cases location name rest with ⟨back, same⟩ | ⟨-, -, same⟩ |
        ⟨named, -, ⟨-, last, same⟩ | ⟨-, -, same⟩ | ⟨-, same⟩ |
          ⟨_, _, -, ⟨last, same⟩ | ⟨-, same⟩⟩⟩ <;>
        rw [same] at stopped
      · rw [if_pos back]
        exact inductionHypothesis stopped
      · simp at stopped
      · rw [if_neg named, last]
        simpa [eq_comm] using stopped
      · simp at stopped
      · rw [if_neg named]
        exact inductionHypothesis stopped
      · rw [if_neg named, last]
        simpa [eq_comm] using stopped
      · simp at stopped

end Tree

namespace Files

/-! ### Steps that stay in the working directory -/

theorem here_makeDirectory {files after : Files} {path : Path}
    (made : files.makeDirectory path = .ok after) : after.here = files.here := by
  unfold makeDirectory at made
  obtain ⟨-, -, rest⟩ := bind_eq_ok_iff.mp made
  obtain ⟨stop, -, done⟩ := bind_eq_ok_iff.mp rest
  cases stop with
  | found place entry => cases done
  | vacant place =>
      cases done
      rfl

theorem keepsHere_ensureDirectory (path : Path) {orElse : FileFault → FileAction Unit}
    (instead : ∀ fault, Keeps here (orElse fault)) : Keeps here (ensureDirectory path orElse) := by
  intro files
  rw [ensureDirectory_apply]
  split
  next after made => exact here_makeDirectory made
  · split
    · exact instead _ files
    · split <;> rfl

theorem keepsHere_ensureNames (root : Nat) (reversed : List String) :
    Keeps here (ensureNames root reversed) := by
  induction reversed with
  | nil => exact keepsHere_ensureDirectory _ keeps_throw
  | cons name above inductionHypothesis =>
      apply keepsHere_ensureDirectory
      intro _
      exact inductionHypothesis.bind fun _ => keepsHere_ensureDirectory _ keeps_throw

theorem ensureDirectories_here (files : Files) :
    ensureDirectories ⟨0, []⟩ files = (.ok (), files) := by
  have text : (Path.mk 0 []).text = "." := by decide +kernel
  have admitted : admitPath "." = .ok () := admitPath_eq_ok_iff.mpr (by decide +kernel)
  have start : leadingSlashes "." = 0 ∧ pathNames "." = [] := by decide +kernel
  have made : files.makeDirectory ⟨0, []⟩ = .error .exists := by
    unfold makeDirectory
    rw [text, admitted]
    rfl
  have found : files.find "." = .ok (files.here, .directory) := by
    apply find_eq_ok_iff.mpr
    rw [start.1, start.2]
    exact ⟨admitted, rfl, .inl rfl⟩
  unfold ensureDirectories
  change ensureDirectory ⟨0, []⟩ throw files = _
  rw [ensureDirectory_apply, made, text]
  simp [isDirectory, found]

end Files

namespace Log

open Files

/-! ### The log file -/

/-- The path under which a log file is opened, from a working directory. -/
def logText (here : Location) (path : String) : String :=
  "/" ++ "/".intercalate (Files.absoluteNames { here } (Path.ofString path))

def logPlace (here : Location) (path : String) : Location :=
  Tree.follow [] (pathNames (logText here path))

namespace Sink

variable {files after : Files} {path : String} {location : Location}

theorem openLog_apply (path : String) (files : Files) :
    openLog path files =
      match ensureDirectories (Path.ofString path).parent files with
      | (.error fault, middle) => (.error fault, middle)
      | (.ok (), middle) =>
        match middle.openPlace (logText middle.here path) with
        | .error cause => (.error ⟨cause, [middle.absoluteText (Path.ofString path)]⟩, middle)
        | .ok (location, content, mode) =>
          (.ok location, middle.put location (.file content mode)) := by
  unfold openLog
  rw [bind_apply]
  rcases ensureDirectories (Path.ofString path).parent files with ⟨fault | _, middle⟩
  · rfl
  · dsimp only
    rw [bind_apply, get_apply]
    have written : logText middle.here path =
        "/" ++ "/".intercalate (middle.absoluteNames (Path.ofString path)) := rfl
    rw [written]
    dsimp only
    cases middle.openPlace ("/" ++ "/".intercalate (middle.absoluteNames (Path.ofString path))) <;>
      rfl

theorem keepsHere_openLog (path : String) : Keeps here (openLog path) := by
  intro files
  have kept := keepsHere_ensureNames (Path.ofString path).parent.root
    (Path.ofString path).parent.names.reverse files
  rw [openLog_apply]
  unfold ensureDirectories
  generalize ensureNames _ _ files = ended at kept ⊢
  obtain ⟨fault | _, middle⟩ := ended
  · exact kept
  · dsimp only
    cases middle.openPlace (logText middle.here path) <;> exact kept

/-- A path that starts with a slash is not looked for in the working directory. -/
theorem leadingSlashes_slash (rest : String) : leadingSlashes ("/" ++ rest) ≠ 0 := by
  unfold leadingSlashes
  have starts : ("/" ++ rest).toList = '/' :: rest.toList := by simp
  rw [starts, List.takeWhile_cons_of_pos (by decide)]
  split
  next empty => cases empty
  · decide
  · decide

/-- A log file that has been opened is a file at its location, to which its path leads. -/
theorem find_of_openLog (opened : openLog path files = (.ok location, after)) :
    logPlace files.here path = location ∧ ∃ content mode,
      after.find (logText files.here path) = .ok (location, .file content mode) := by
  have kept := keepsHere_ensureNames (Path.ofString path).parent.root
    (Path.ofString path).parent.names.reverse files
  rw [openLog_apply] at opened
  unfold ensureDirectories at opened
  generalize ensureNames _ _ files = ended at kept opened
  obtain ⟨fault | _, middle⟩ := ended
  · cases opened
  · rw [← kept]
    dsimp only at opened ⊢
    cases found : middle.openPlace (logText middle.here path) with
    | error cause =>
        rw [found] at opened
        cases opened
    | ok place =>
        obtain ⟨location, content, mode⟩ := place
        rw [found] at opened
        cases opened
        obtain ⟨admitted, ending, stopped⟩ := openPlace_eq_ok found
        simp only [walk_eq_ok_iff, logText, if_neg (leadingSlashes_slash _)] at stopped
        refine ⟨(Tree.eq_follow_of_walk
          (stopped.imp_right fun found => ⟨content, mode, found⟩)).symm,
          content, mode, find_eq_ok_iff.mpr ⟨admitted, walk_eq_ok_iff.mpr ?_, .inr ending⟩⟩
        rw [logText, if_neg (leadingSlashes_slash _)]
        exact Tree.walk_put_found stopped

def ofWishes (here : Location) (level : Int) (path? : Option String) : Sink where
  level := level
  handlers := .stream level ::
    (path?.map fun path => Handler.file level (some (logPlace here path))).toList
  quietLevel := max level Level.warning

end Sink

namespace Desk

variable {desk after : Desk} {level logFile : Value} {verbose : Bool}

/-- A set-up that succeeds leaves the sink of its wishes, and a log file that is there. -/
theorem of_setUpLog (done : Command.setUpLog desk level logFile verbose = (.ok (), after)) :
    ∃ path?, logFilePath? logFile = .ok path? ∧
      after.sink = Sink.ofWishes desk.files.here (Level.resolve level.text verbose) path? ∧
      after.console = desk.console ∧
      ∀ path ∈ path?, ∃ content mode, after.files.find (logText desk.files.here path) =
        .ok (logPlace desk.files.here path, .file content mode) := by
  unfold Command.setUpLog at done
  split at done
  · cases done
  split at done
  · cases done
  next path? wanted =>
    refine ⟨path?, wanted, ?_⟩
    unfold Sink.setUp at done
    cases path? with
    | none =>
        cases done
        exact ⟨rfl, rfl, nofun⟩
    | some path =>
        dsimp only at done
        rcases opened : Sink.openLog path desk.files with ⟨fault | location, files⟩
        · rw [opened] at done
          cases done
        · rw [opened] at done
          cases done
          obtain ⟨rfl, found⟩ := Sink.find_of_openLog opened
          refine ⟨rfl, rfl, ?_⟩
          intro other same
          cases same
          exact found

theorem setUpLog_of_openLog {path : String} {location : Location} {files : Files}
    (written : level.writable = true) (named : path ≠ "")
    (opened : Sink.openLog path desk.files = (.ok location, files)) :
    (Command.setUpLog desk level (.str path) verbose).1 = .ok () := by
  unfold Command.setUpLog logFilePath? Sink.setUp
  simp only [written, Bool.not_true, Bool.and_false, Bool.false_eq_true, named, if_false, opened]
  rfl

theorem here_setUpLog (desk : Desk) (level logFile : Value) (verbose : Bool) :
    (Command.setUpLog desk level logFile verbose).2.files.here = desk.files.here := by
  unfold Command.setUpLog
  split
  · rfl
  split
  · rfl
  next path? _ =>
    cases path? with
    | none => rfl
    | some path =>
        have kept := Sink.keepsHere_openLog path desk.files
        unfold Sink.setUp
        dsimp only
        generalize Sink.openLog path desk.files = ended at kept ⊢
        obtain ⟨fault | location, files⟩ := ended <;> exact kept

end Desk

/-! ### Histories -/

inductive Event where
  | setUp (level logFile : Value) (verbose : Bool)
  | record (time : String) (record : Record)

namespace Desk

def next (desk : Desk) : Event → Desk
  | .setUp level logFile verbose => (Command.setUpLog desk level logFile verbose).2
  | .record time record => desk.emit time record

/-- The desk after events one after another; a set-up that fails is over, and the next event
follows. -/
def after (desk : Desk) (events : List Event) : Desk := events.foldl next desk

theorem here_after (desk : Desk) (events : List Event) :
    (desk.after events).files.here = desk.files.here := by
  induction events generalizing desk with
  | nil => rfl
  | cons event rest inductionHypothesis =>
      refine (inductionHypothesis (desk.next event)).trans ?_
      cases event with
      | setUp level logFile verbose => exact here_setUpLog desk level logFile verbose
      | record time record => exact (desk.emit_writes time record).rewrites.here_eq

end Desk

/-! ### Records after a set-up -/

/-- The level that records of a channel must have after a set-up. -/
def threshold (level : Int) (channel : String) : Int :=
  if Sink.isQuiet channel then max level Level.warning else level

/-- The line that is written for a record after a set-up, if any. -/
def written? (level : Int) (time : String) (record : Record) : Option String :=
  if 0 < record.level ∧ threshold level record.channel ≤ record.level then
    (Sink.line time record).toString?
  else none

/-- A record without a byte that is no character. -/
def Record.IsPlain (record : Record) : Prop := ∀ b, Glyph.byte b ∉ record.message

theorem isSome_toString?_iff (t : Text) : t.toString?.isSome = true ↔ ∀ b, Glyph.byte b ∉ t := by
  unfold Text.toString?
  rw [Option.isSome_map]
  induction t with
  | nil => simp
  | cons g rest inductionHypothesis =>
      rw [List.mapM_cons]
      cases g with
      | byte b =>
          simp only [bind, Option.bind_none, Option.isSome_none, Bool.false_eq_true, false_iff]
          exact fun plain => plain b List.mem_cons_self
      | char c =>
          simp only [List.mem_cons, reduceCtorEq, false_or, ← inductionHypothesis]
          generalize (List.mapM _ rest : Option (List Char)) = found
          cases found <;> rfl

/-- A record is written just when its level reaches the threshold and it can be encoded. -/
theorem isSome_written?_iff (level : Int) (time : String) (record : Record) :
    (written? level time record).isSome = true ↔
      0 < record.level ∧ threshold level record.channel ≤ record.level ∧ record.IsPlain := by
  have line : (Sink.line time record).toString?.isSome = true ↔ record.IsPlain := by
    rw [isSome_toString?_iff]
    simp [Sink.line, Record.IsPlain, Text.ofString, Text.newline]
  unfold written?
  by_cases accepted : 0 < record.level ∧ threshold level record.channel ≤ record.level
  · rw [if_pos accepted, line, ← and_assoc, and_iff_right accepted]
  · rw [if_neg accepted, ← and_assoc]
    simp [accepted]

theorem accepts_ofWishes (here : Location) (level : Int) (path? : Option String) (record : Record) :
    (Sink.ofWishes here level path?).accepts record = true ↔
      0 < record.level ∧ threshold level record.channel ≤ record.level := by
  have reached : max level Level.warning ≠ 0 := by
    simp only [Level.warning]
    omega
  unfold Sink.accepts Sink.levelOf Sink.ofWishes threshold
  by_cases quiet : Sink.isQuiet record.channel = true
  · simp [quiet, reached]
  · simp [quiet]

theorem level_le_threshold (level : Int) (channel : String) : level ≤ threshold level channel := by
  unfold threshold
  split
  · exact Int.le_max_left level Level.warning
  · exact Int.le_refl level

namespace Desk

/-- The same sink, with a text added to the standard output and to the log file, if there is one,
and to nothing else. -/
structure Extends (place? : Option Location) (text : String) (desk after : Desk) : Prop where
  sink_eq : after.sink = desk.sink
  out_eq : after.console.out = desk.console.out ++ text
  err_eq : after.console.err = desk.console.err
  logged : ∀ place ∈ place?, ∀ content mode,
    desk.files.tree.get? place = some (.file content mode) →
    after.files.tree.get? place = some (.file (content ++ encodeString text) mode)
  others : ∀ place ∉ place?, after.files.tree.get? place = desk.files.tree.get? place

theorem Extends.refl (place? : Option Location) (desk : Desk) : Extends place? "" desk desk where
  sink_eq := rfl
  out_eq := String.append_empty.symm
  err_eq := rfl
  logged := by
    intro place _ content mode found
    rw [found]
    simp [encodeString]
  others := fun _ _ => rfl

theorem Extends.trans {place? : Option Location} {one two : String} {first second third : Desk}
    (before : Extends place? one first second) (later : Extends place? two second third) :
    Extends place? (one ++ two) first third where
  sink_eq := later.sink_eq.trans before.sink_eq
  out_eq := by rw [later.out_eq, before.out_eq, String.append_assoc]
  err_eq := later.err_eq.trans before.err_eq
  logged := by
    intro place member content mode found
    rw [later.logged place member _ mode (before.logged place member content mode found),
      encodeString_append, List.append_assoc]
  others := fun place outside => (later.others place outside).trans (before.others place outside)

variable {here : Location} {level : Int} {path? : Option String} {desk : Desk}

theorem handled_extends (wished : desk.sink = Sink.ofWishes here level path?) (line : String) :
    Extends (path?.map (logPlace here)) line desk
      (desk.sink.handlers.foldl (fun desk handler => desk.handle line handler) desk) := by
  rw [wished]
  cases path? with
  | none => exact ⟨rfl, rfl, rfl, nofun, fun _ _ => rfl⟩
  | some path =>
      refine ⟨rfl, rfl, rfl, ?_, ?_⟩
      · intro place same content mode found
        obtain rfl : logPlace here path = place := by simpa using same
        have appended : appendTo desk.files (logPlace here path) (encodeString line) =
            desk.files.put (logPlace here path)
              (.file (content ++ encodeString line) mode) := by
          unfold appendTo
          rw [found]
        change (appendTo desk.files (logPlace here path) (encodeString line)).tree.get? _ = _
        rw [appended]
        exact Tree.get?_put_self _ _ (Tree.ne_nil_of_get?_eq_file found)
      · intro place outside
        have differs : place ≠ logPlace here path := fun same => outside (by simp [same])
        change (appendTo desk.files (logPlace here path) (encodeString line)).tree.get? place = _
        have rewrites := appendTo_rewrites desk.files (logPlace here path) (encodeString line)
        exact rewrites.get?_eq place differs

theorem emit_extends (wished : desk.sink = Sink.ofWishes here level path?) (time : String)
    (record : Record) :
    Extends (path?.map (logPlace here)) ((written? level time record).getD "") desk
      (desk.emit time record) := by
  have accepts := accepts_ofWishes here level path? record
  rw [← wished] at accepts
  unfold emit written?
  by_cases accepted : 0 < record.level ∧ threshold level record.channel ≤ record.level
  · have passed : desk.sink.handlers.filter (fun handler => handler.level ≤ record.level) =
        desk.sink.handlers := by
      have reached := Int.le_trans (level_le_threshold level record.channel) accepted.2
      rw [wished]
      cases path? <;> simp [Sink.ofWishes, Handler.level, reached]
    have attached : desk.sink.handlers ≠ [] := by
      rw [wished]
      exact List.cons_ne_nil _ _
    simp only [if_pos accepted, accepts.mpr accepted, attached, passed, Bool.not_true,
      Bool.false_eq_true, if_false]
    cases (Sink.line time record).toString? with
    | none => exact .refl _ desk
    | some line => exact handled_extends wished line
  · simp only [if_neg accepted, Bool.eq_false_iff.mpr (accepts.not.mpr accepted), Bool.not_false,
      if_true]
    exact .refl _ desk

theorem after_records_extends (wished : desk.sink = Sink.ofWishes here level path?)
    (records : List (String × Record)) :
    Extends (path?.map (logPlace here))
      (String.join (records.filterMap fun entry => written? level entry.1 entry.2)) desk
      (desk.after (records.map fun entry => .record entry.1 entry.2)) := by
  induction records generalizing desk with
  | nil => exact .refl _ desk
  | cons first rest inductionHypothesis =>
      obtain ⟨time, record⟩ := first
      have here' := emit_extends wished time record
      have later := inductionHypothesis (here'.sink_eq.trans wished)
      have joined := here'.trans later
      rw [List.filterMap_cons]
      dsimp only
      cases line : written? level time record with
      | none =>
          rw [line, Option.getD_none, String.empty_append] at joined
          exact joined
      | some text =>
          rw [line, Option.getD_some, ← String.join_cons] at joined
          exact joined

end Desk

open Command in
/-- However often a log has been set up before, with or without success, and whatever has been sent
to it, the next set-up that succeeds decides alone where records go: the level, the handlers and the
level of the quiet channel are those of its wishes, in the working directory of the start.  The
records that follow are written in their order, each of them once to the standard output and once to
the log file if there is one; those below the threshold, and those that cannot be encoded, are
written nowhere, and nothing else changes. -/
theorem written_once (start : Desk) (history : List Event) (level logFile : Value) (verbose : Bool)
    (done : (setUpLog (start.after history) level logFile verbose).1 = .ok ()) :
    let desk := (setUpLog (start.after history) level logFile verbose).2
    let wanted := Level.resolve level.text verbose
    let here := start.files.here
    ∃ path?, logFilePath? logFile = .ok path? ∧
      desk.sink = Sink.ofWishes here wanted path? ∧
      (∀ path ∈ path?, ∃ content mode,
        desk.files.find (logText here path) = .ok (logPlace here path, .file content mode)) ∧
      (∀ records : List (String × Record),
        Desk.Extends (path?.map (logPlace here))
          (String.join (records.filterMap fun entry => written? wanted entry.1 entry.2)) desk
          (desk.after (records.map fun entry => .record entry.1 entry.2))) ∧
      ∀ time record, (written? wanted time record).isSome = true ↔
        0 < record.level ∧ threshold wanted record.channel ≤ record.level ∧ record.IsPlain := by
  intro desk wanted here
  have ended : setUpLog (start.after history) level logFile verbose = (.ok (), desk) :=
    Prod.ext done rfl
  obtain ⟨path?, path_eq, wished, -, found⟩ := Desk.of_setUpLog ended
  rw [Desk.here_after] at wished found
  exact ⟨path?, path_eq, wished, found, Desk.after_records_extends wished,
    isSome_written?_iff wanted⟩

open Command in
/-- The record that follows a set-up with a second log file is written there, and the first log file
is left alone. -/
theorem written_once_in_second_file :
    let files : Files := { tree := ⟨[(["one"], .file [] 0o644)]⟩ }
    let start : Desk :=
      { sink := { level := Level.debug, handlers := [.file Level.debug (some ["one"])] }, files }
    let history : List Event := [.record "now" ⟨Level.debug, "c", "first"⟩]
    let ready := setUpLog (start.after history) (.str "INFO") (.str "two") false
    let later := ready.2.after [.record "now" ⟨Level.info, "c", "second"⟩]
    ready.1 = .ok () ∧
      later.console.out = ready.2.console.out ++ "now - c - INFO - second\n" ∧
      later.files.tree.get? ["one"] = ready.2.files.tree.get? ["one"] ∧
      ∃ content mode, ready.2.files.tree.get? ["two"] = some (.file content mode) ∧
        later.files.tree.get? ["two"] =
          some (.file (content ++ encodeString "now - c - INFO - second\n") mode) := by
  intro files start history ready later
  have there : (start.after history).files =
      { tree := ⟨[(["one"], .file (encodeString "now - c - DEBUG - first\n") 0o644)]⟩ } := by
    decide +kernel
  have parent : (Path.ofString "two").parent = ⟨0, []⟩ := by decide +kernel
  have text : logText [] "two" = "/two" := by decide +kernel
  have place : logPlace [] "two" = ["two"] := by decide +kernel
  have opened : ∃ after, Sink.openLog "two" (start.after history).files = (.ok ["two"], after) := by
    rw [there, Sink.openLog_apply, parent, ensureDirectories_here]
    generalize encodeString "now - c - DEBUG - first\n" = content
    have vacant : Files.openPlace { tree := ⟨[(["one"], .file content 0o644)]⟩ } "/two" =
        .ok (["two"], [], newFileMode) := by
      have admitted : admitPath "/two" = .ok () := admitPath_eq_ok_iff.mpr (by decide +kernel)
      have named : PathEnd.ofString "/two" = .name := by decide +kernel
      have parts : leadingSlashes "/two" = 1 ∧ pathNames "/two" = ["two"] := by decide +kernel
      unfold Files.openPlace
      rw [admitted, named, parts.1, parts.2]
      rfl
    dsimp only
    rw [text, vacant]
    exact ⟨_, rfl⟩
  obtain ⟨after, opened⟩ := opened
  have done : ready.1 = .ok () := Desk.setUpLog_of_openLog rfl (by decide) opened
  obtain ⟨path?, path_eq, -, found, extends_of, -⟩ :=
    written_once start history (.str "INFO") (.str "two") false done
  have wanted : logFilePath? (.str "two") = .ok (some "two") := by simp [logFilePath?]
  obtain rfl : some "two" = path? := Except.ok.inj (wanted.symm.trans path_eq)
  have line : written? (Level.resolve (Value.str "INFO").text false) "now"
      ⟨Level.info, "c", "second"⟩ = some "now - c - INFO - second\n" := by decide +kernel
  have extended := extends_of [("now", ⟨Level.info, "c", "second"⟩)]
  simp only [List.filterMap_cons, List.filterMap_nil, line, String.join_cons, String.join_nil,
    String.append_empty, List.map_cons, List.map_nil] at extended
  have target : (some "two").map (logPlace start.files.here) = some ["two"] := congrArg some place
  rw [target] at extended
  obtain ⟨content, mode, leads⟩ := found "two" rfl
  obtain ⟨-, walked, -⟩ := find_eq_ok_iff.mp leads
  have entry := Tree.get?_of_walk_found (walk_eq_ok_iff.mp walked)
  rw [show logPlace start.files.here "two" = ["two"] from place] at entry
  exact ⟨done, extended.out_eq, extended.others ["one"] (by simp), content, mode, entry,
    extended.logged ["two"] rfl content mode entry⟩

open Command in
/-- A difference that shows a byte which is no character is not written, although its level is
wanted. -/
theorem unencodable_record_lost :
    let ready := setUpLog {} (.str "INFO") .null false
    let record := Channel.batch.info ("a.m: would be modified\n" ++
      Source.diff "a.m" [.byte 0xff, .char '<', .char '>'] [.byte 0xff])
    ready.1 = .ok () ∧ 0 < record.level ∧
      threshold (Level.resolve "INFO" false) record.channel ≤ record.level ∧
      ready.2.emit "now" record = ready.2 := by
  intro ready record
  have lost : (Sink.line "now" record).toString? = none := by decide +kernel
  refine ⟨rfl, by decide, by decide +kernel, ?_⟩
  have accepted : ready.2.sink.accepts record = true := by decide +kernel
  have attached : ready.2.sink.handlers ≠ [] := by decide
  unfold Desk.emit
  rw [accepted, if_neg (by decide), if_neg attached, lost]

end Log

end WarningSweep
