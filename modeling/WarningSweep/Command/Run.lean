import WarningSweep.Batch.Run
import WarningSweep.Command.Request
import WarningSweep.Constant.Extraction
import WarningSweep.Constant.Header
import WarningSweep.Log.Sink
import WarningSweep.Settings.Check
import WarningSweep.Settings.Document

/-!
# Running a command line

A run reads a command line, writes to the console, to the log and to the files, and ends with an
exit code. Some faults are not answered by an exit code: they leave the run and are given to its
caller.
-/

namespace WarningSweep.Command

inductive Escape where
  | settings (fault : Settings.Fault)
  | header (fault : Header.Fault)
  | file (fault : FileFault)
  deriving DecidableEq, Repr

structure Outcome where
  exit : Except Escape Nat
  desk : Log.Desk

/-- What surrounds a run, with the log level that the environment asks for. -/
structure Context extends Surroundings where
  /-- How many regions of a text a region may lie in. -/
  room : Nat
  environmentLevel : Option String := none
  /-- Where the kinds of problems with constants are explained. -/
  guide : Option String := none

namespace Context

def emit (context : Context) (desk : Log.Desk) (records : List Log.Record) : Log.Desk :=
  desk.emitAll context.logTime records

end Context

/-- Sets the log up; a level that cannot be written, or a log file that is no text or cannot be
opened, leaves the run. -/
def setUpLog (desk : Log.Desk) (level logFile : Value) (verbose : Bool) :
    Except Escape Unit × Log.Desk :=
  if !verbose && !level.writable then (.error (.settings .longNumber), desk)
  else
    let level := Log.Level.resolve level.text verbose
    match Log.logFilePath? logFile with
    | .error () => (.error (.settings .wrongKind), { desk with sink := desk.sink.restart level })
    | .ok path? =>
      let (result, sink, files) := desk.sink.setUp level path? desk.files
      (result.mapError .file, { desk with sink, files })

def setUpConsole (desk : Log.Desk) (verbose : Bool) : Log.Desk :=
  (setUpLog desk (.str "INFO") .null verbose).2

/-- The record of a fault that ends a run, with a line that stands for its trace. -/
def fatalRecord (message : String) : Log.Record :=
  Log.Channel.batch.error s!"Fatal error: {message}\n<traceback>"

def runInit (context : Context) (desk : Log.Desk) (path : String) (verbose : Bool) : Outcome :=
  let desk := setUpConsole desk verbose
  match ({} : Settings).save path desk.files with
  | (.error fault, files) => ⟨.error (.settings fault), { desk with files }⟩
  | (.ok record, files) =>
    let desk := context.emit { desk with files } [record]
    ⟨.ok 0, desk.print s!"設定ファイルを生成しました: {path}\n"⟩

/-- The settings of a run: from the file that is asked for, else from the usual file if it is
there. -/
def findSettings (context : Context) (files : Files) :
    (config : Option (Option String)) → Except FileFault (Option Settings.Loaded)
  | none => do
    if ← files.present defaultSettingsPath then
      return some (Settings.load files context.environmentLevel defaultSettingsPath)
    let standard : Settings := {}
    let level := (context.environmentLevel.map Value.str).getD standard.logLevel
    return some (.ok { standard with logLevel := level }, [])
  | some none => return some (.error .wrongKind, [])
  | some (some path) => do
    if ← files.present (Path.ofString path).text then
      return some (Settings.load files context.environmentLevel path)
    return none

def override (request : PruneRequest) (settings : Settings) : Settings :=
  { settings with
    dryRun := if request.dryRun then .bool true else settings.dryRun
    reportFile := (request.report.map Value.str).getD settings.reportFile }

/-- Sweeps the files of a request under settings that have been checked. -/
def runBatch (context : Context) (desk : Log.Desk) (settings : Settings) (paths : List String) :
    Outcome :=
  match Plan.ofSettings context.room settings with
  | .error fault => ⟨.ok 1, context.emit desk [fatalRecord fault.message]⟩
  | .ok plan =>
    let (result, state) := Batch.run context.toSurroundings settings plan paths { desk }
    match result with
    | .error fault => ⟨.ok 1, context.emit state.desk [fatalRecord fault.message]⟩
    | .ok results => ⟨.ok (if results.all FileResult.succeeded then 0 else 1), state.desk⟩

/-- Checks settings and runs the batch unless something is wrong with them. -/
def runChecked (context : Context) (desk : Log.Desk) (settings : Settings) (paths : List String) :
    Outcome :=
  let (result, log) := settings.check
  let desk := context.emit desk log
  match result with
  | .error fault => ⟨.error (.settings fault), desk⟩
  | .ok [] => runBatch context desk settings paths
  | .ok problems =>
    ⟨.ok 1, context.emit desk (problems.map fun problem =>
      Log.Channel.batch.error s!"Configuration error: {problem}")⟩

def runPrune (context : Context) (desk : Log.Desk) (request : PruneRequest) : Outcome :=
  match request.initConfig with
  | some path => runInit context desk path request.verbose
  | none =>
    match findSettings context desk.files request.config with
    | .error fault => ⟨.error (.file fault), desk⟩
    | .ok none =>
      let path := request.config.join.getD ""
      ⟨.ok 1, desk.print s!"Error: 設定ファイルが見つかりません: {path}\n"⟩
    | .ok (some (result, log)) =>
      let desk := context.emit desk log
      match result with
      | .error fault => ⟨.error (.settings fault), desk⟩
      | .ok settings =>
        let settings := override request settings
        match setUpLog desk settings.logLevel settings.logFile request.verbose with
        | (.error escape, desk) => ⟨.error escape, desk⟩
        | (.ok (), desk) => runChecked context desk settings request.paths

def writeHeader (context : Context) (desk : Log.Desk) (header : Header)
    (constants : List Constant) :
    Outcome :=
  let (result, files) := header.write constants desk.files
  let desk := { desk with files }
  match result with
  | .ok paths => ⟨.ok 0, context.emit desk [Header.writtenRecord constants paths]⟩
  | .error (.file fault) =>
    if fault.isReported then
      ⟨.ok 1, context.emit desk [Log.Channel.batch.error
        s!"Cannot write constants to {header.output}: {fault.message}"]⟩
    else ⟨.error (.file fault), desk⟩
  | .error fault => ⟨.error (.header fault), desk⟩

def runConstants (context : Context) (desk : Log.Desk) (request : ConstantsRequest) : Outcome :=
  let desk := setUpConsole desk request.verbose
  let start : Extraction := { guide := context.guide }
  let (result, extraction) := start.addFiles desk.files request.inputs
  let desk := context.emit desk extraction.log
  match result with
  | .error fault => ⟨.error (.file fault), desk⟩
  | .ok constants => writeHeader context desk ⟨request.output, extraction.sources⟩ constants

def run (context : Context) (files : Files) (arguments : List String) : Outcome :=
  let desk : Log.Desk := { files }
  match Request.parse arguments with
  | .error (.help text) => ⟨.ok 0, desk.print text⟩
  | .error (.fault text) => ⟨.ok 2, desk.complain text⟩
  | .ok (.prune request) => runPrune context desk request
  | .ok (.constants request) => runConstants context desk request

end WarningSweep.Command
