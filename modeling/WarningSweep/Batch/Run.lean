import WarningSweep.Batch.Plan
import WarningSweep.Batch.Result
import WarningSweep.Files.Replace
import WarningSweep.Log.Sink
import WarningSweep.Report
import WarningSweep.Source.Collect
import WarningSweep.Source.Diff

/-!
# Batches

A batch sweeps the files that its paths stand for, one after another. A file that cannot be read,
whose markers do not pair up or that cannot be written is reported as failed and left as it is; the
others are not affected. A file whose regions there is no room for ends the batch. Records are
written as soon as they are sent: when the log file is itself swept, the batch reads in it what it
has logged so far, and what it logs after writing the file back is lost.
-/

namespace WarningSweep

structure Surroundings where
  /-- The time that log lines show. -/
  logTime : String := ""
  /-- The time that reports show. -/
  reportTime : String := ""
  /-- The stamps of temporary files, in the order in which they are tried. -/
  stamps : List Stamp
  /-- What a file holds after a workbook was saved to it. -/
  saved : Workbook → Bytes
  /-- Why a file cannot take its new bytes in the last step, by its path. -/
  moveFault : String → Option FileCause := fun _ => none
  /-- What is said of a region that there is no room for. -/
  depthMessage : String := ""

namespace Batch

inductive Fault where
  | use (fault : UseFault)
  /-- A region that there is no room for. -/
  | tooDeep (message : String)
  /-- There are no extensions. -/
  | noExtensions
  /-- The extensions cannot be listed. -/
  | notListable (value : Value)
  /-- An extension has no small letters. -/
  | notExtension (value : Value)
  /-- The report's path is no text. -/
  | notPath (value : Value)
  | report (fault : Report.Fault)
  /-- A path that cannot be looked at. -/
  | file (fault : FileFault)

namespace Fault

def message : Fault → String
  | .use fault => fault.message
  | .tooDeep message => message
  | .noExtensions => "'Config' object has no attribute 'source_extensions'"
  | .notListable value => s!"'{value.kindName}' object is not iterable"
  | .notExtension value => s!"'{value.kindName}' object has no attribute 'lower'"
  | .notPath (.bytes _) =>
    "argument should be a str object or an os.PathLike object returning str, not <class 'bytes'>"
  | .notPath value => s!"expected str, bytes or os.PathLike object, not {value.kindName}"
  | .report fault => fault.message
  | .file fault => fault.message

end Fault

structure State where
  /-- The files of the batch, with the log that is written meanwhile. -/
  desk : Log.Desk
  tally : Tally := {}
  /-- All records that were sent. -/
  log : List Log.Record := []

def State.files (state : State) : Files := state.desk.files

/-- A step of a batch: one that fails keeps what was done and sent before. -/
abbrev Action := ExceptT Fault (StateM State)

def send (surroundings : Surroundings) (records : List Log.Record) : Action Unit :=
  modify fun state =>
    { state with
      desk := state.desk.emitAll surroundings.logTime records
      log := state.log ++ records }

def setFiles (files : Files) : Action Unit :=
  modify fun state => { state with desk := { state.desk with files } }

/-- The result of a file that is left as it is because of a fault. -/
def failure (path error : String) : FileResult :=
  ({ path, status := .failed, error := some error } : FileResult).withShortPath

def swept (path : String) (status : Status) (summary : Summary) : FileResult :=
  ({ path, status, regions := summary.regions, kept := summary.kept,
     removed := summary.removed } : FileResult).withShortPath

def writeBack (surroundings : Surroundings) (path : String) (outcome : Sweep.Outcome) :
    Action FileResult := do
  let result := swept path .modified outcome.summary
  let files := (← get).files
  match Files.replace surroundings.stamps path outcome.text.encode
    (surroundings.moveFault path) files with
  | (.ok (), after) =>
    setFiles after
    match files.replacePlace (Path.ofString path) with
    | .ok location => modify fun state =>
      { state with desk := { state.desk with sink := state.desk.sink.lose location } }
    | .error _ => pure ()
    return result
  | (.error fault, after) =>
    setFiles after
    if !fault.isReported then throw (.file fault)
    send surroundings [Log.Channel.batch.error s!"{path}: cannot write: {fault.message}"]
    return { result with status := .failed, error := some fault.message }

def sweepFile (surroundings : Surroundings) (plan : Plan) (dryRun : Bool) (path : String) :
    Action FileResult := do
  match (← get).files.read path with
  | .error fault =>
    if !fault.isReported then throw (.file fault)
    send surroundings [Log.Channel.batch.error s!"{path}: cannot read: {fault.message}"]
    return failure path fault.message
  | .ok content =>
    let before := Text.decode content
    send surroundings (plan.log before)
    match plan.run before with
    | .error (.use fault) => throw (.use fault)
    | .error (.regions (.tooDeep _)) => throw (.tooDeep surroundings.depthMessage)
    | .error (.regions (.markers fault)) =>
      send surroundings [Log.Channel.batch.error
        s!"{path}: malformed markers, file left unmodified: {fault.message}"]
      return failure path fault.message
    | .ok outcome =>
      if outcome.text = before then return swept path .unchanged outcome.summary
      else if dryRun then
        send surroundings [Log.Channel.batch.info
          (Text.ofString s!"{path}: would be modified\n" ++ Source.diff path before outcome.text)]
        return swept path .modified outcome.summary
      else writeBack surroundings path outcome

def sweepFiles (surroundings : Surroundings) (plan : Plan) (dryRun : Bool) (progress : Progress) :
    List String → Action (List FileResult)
  | [] => return []
  | path :: rest => do
    let result ← sweepFile surroundings plan dryRun path
    let progress := progress.next
    modify fun state => { state with tally := state.tally.record result }
    send surroundings (progress.fileRecord result :: progress.shareRecords?.getD [])
    return result :: (← sweepFiles surroundings plan dryRun progress rest)

/-- The extensions of settings as texts; bytes are the suffix of no file. -/
def extensionTexts (settings : Settings) : Except Fault (List String) :=
  match settings.extensions, settings.extensions.bind Value.items? with
  | none, _ => .error .noExtensions
  | some value, none => .error (.notListable value)
  | some _, some items => do
    let texts ← items.mapM fun
      | .str s => .ok (some s)
      | .bytes _ => .ok none
      | value => .error (Fault.notExtension value)
    return texts.filterMap id

def writeReport (surroundings : Surroundings) (settings : Settings) (results : List FileResult) :
    Action Unit := do
  match settings.reportFile with
  | .str path =>
    if path ≠ "" then
      match Report.write surroundings.saved path surroundings.reportTime results (← get).files with
      | (result, files) =>
        setFiles files
        match result with
        | .error fault => throw (.report fault)
        | .ok record => send surroundings [record]
  | value => if value.truthy then throw (.notPath value)

def tallyRecords (tally : Tally) : List Log.Record :=
  let bar := String.ofList (List.replicate 50 '=')
  [bar, "Processing Statistics:", s!"  Total files: {tally.total}",
    s!"  Modified: {tally.modified}",
    s!"  Unchanged: {tally.unchanged}", s!"  Failed: {tally.failed}",
    s!"  Warnings removed: {tally.removed}", bar].map fun (line : String) =>
      Log.Channel.batch.info line

def run (surroundings : Surroundings) (settings : Settings) (plan : Plan) (paths : List String) :
    Action (List FileResult) := do
  let extensions ← extensionTexts settings
  let (collected, log) := Source.collect (← get).files paths extensions
  send surroundings log
  match collected with
  | .error fault => throw (.file fault)
  | .ok sources =>
    send surroundings [Log.Channel.batch.info s!"Processing {sources.length} files"]
    let results ← sweepFiles surroundings plan settings.dryRun.truthy
        ⟨sources.length, 50, 0⟩ sources
    writeReport surroundings settings results
    send surroundings (tallyRecords (← get).tally)
    return results

end Batch

end WarningSweep
