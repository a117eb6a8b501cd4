import Std.Time
import WarningSweep.Command.Run

/-!
# The command line

The program looks up the files that a run needs, runs, and writes back what has changed. All
decisions are made by `Command.run`.
-/

/-! ## What a run needs to know of the files

A run looks only at the paths that its request and its settings name. What lies below a directory
matters only for the directories that are swept.
-/

namespace WarningSweep.Command

structure Reach where
  /-- Paths of which only the entry itself matters. -/
  entries : List String := []
  /-- Paths of which all that lies below matters too. -/
  trees : List String := []
  deriving DecidableEq, Repr, Inhabited

def Request.reach : Request → Reach
  | .prune request =>
    { entries := defaultSettingsPath :: request.config.join.toList ++ request.report.toList
        ++ request.initConfig.toList
      trees := request.paths }
  | .constants request =>
    { entries := (request.output ++ ".h") :: (request.output ++ ".c") :: request.inputs }

def settingPath? : Value → Option String
  | .str path => some path
  | _ => none

def settingsReach (context : Context) (files : Files) : Request → Reach
  | .prune request =>
    match findSettings context files request.config with
    | .ok (some (.ok settings, _)) =>
      { entries := [settings.logFile, settings.reportFile].filterMap settingPath? }
    | _ => {}
  | .constants _ => {}

def passed (files : Files) (written : String) : List Location :=
  let path := Path.ofString written
  (List.range (path.names.length + 1)).map fun count =>
    files.absoluteNames { path with names := path.names.take count }

/-- The entries that differ from those of an earlier tree, in the order in which they were made. -/
def changes (before after : Tree) : List (Location × Entry) :=
  after.entries.filter fun (location, entry) => before.get? location ≠ some entry

end WarningSweep.Command

/-! ## Running here -/

namespace WarningSweep.Main

def entryAt (location : Location) : IO.FS.DirEntry := ⟨"/", "/".intercalate location⟩

/-- Adds what is found at a location, and with `deep` all that lies below. -/
partial def lookUp (deep : Bool) (files : Files) (location : Location) : IO Files := do
  let place := (entryAt location).path
  if ← place.isDir then
    let known := if location = [] then files else files.put location .directory
    if deep then
      (← place.readDir).foldlM (fun files entry =>
        lookUp deep files (location ++ [entry.fileName])) known
    else return known
  else if ← place.pathExists then
    let bytes ← IO.FS.readBinFile place
    return files.put location (.file bytes.toList newFileMode)
  else return files

def lookUpAll (files : Files) (reach : Command.Reach) : IO Files := do
  let near ← (reach.entries ++ reach.trees).foldlM
    (fun files path => (Command.passed files path).foldlM (lookUp false) files) files
  reach.trees.foldlM
    (fun files path => lookUp true files (files.absoluteNames (Path.ofString path))) near

/-- Makes a changed entry. A file that is new and private is closed to others. -/
def writeBack (before : Tree) (change : Location × Entry) : IO Unit := do
  let place := (entryAt change.1).path
  match change.2 with
  | .directory => IO.FS.createDirAll place
  | .file content mode =>
    IO.FS.writeBinFile place content.toByteArray
    if (before.get? change.1).isNone && mode = Files.privateMode then
      IO.setAccessRights place { user := { read := true, write := true } }

def reportFault (escape : Command.Escape) : String :=
  match escape with
  | .settings (.file fault) => fault.message
  | .settings (.document (.decode fault)) => fault.message
  | .settings (.document _) => "the settings file is no well-formed document"
  | .settings .longNumber => Settings.longNumberMessage
  | .settings _ => "a setting has a value of a wrong kind"
  | .header fault => fault.message
  | .file fault => fault.message

def listing (book : Workbook) : Bytes :=
  let line (sheet : Sheet) (cell : Cell) : String :=
    let value := match cell.value with
      | .text s => s
      | .number n => toString n
      | .rounded digits power => s!"{digits}e{power}"
    s!"{sheet.title}!{cell.position}\t{value}\n"
  encodeString (String.join (book.sheets.flatMap fun sheet => sheet.cells.map (line sheet)))

def runHere (arguments : List String) : IO UInt32 := do
  let here ← IO.currentDir
  let time ← Std.Time.PlainDateTime.now
  let first ← IO.rand 0 99999999
  let context : Command.Context :=
    { logTime := time.format "uuuu-MM-dd HH:mm:ss,SSS"
      reportTime := time.format "uuuu-MM-dd HH:mm:ss"
      stamps := (List.range 100).filterMap fun n => Stamp.ofText? (toString (first + n))
      saved := listing
      depthMessage := "the regions are nested too deeply"
      room := 900
      environmentLevel := ← IO.getEnv "OBJC_PORT_TOOLS_LOG_LEVEL" }
  let empty : Files := { here := pathNames here.toString, hereText := here.toString }
  let files ← match Command.Request.parse arguments with
    | .error _ => pure empty
    | .ok request => do
      let files ← lookUpAll empty { entries := [here.toString] }
      let files ← lookUpAll files request.reach
      lookUpAll files (Command.settingsReach context files request)
  let outcome := Command.run context files arguments
  (Command.changes files.tree outcome.desk.files.tree).forM (writeBack files.tree)
  IO.print outcome.desk.console.out
  IO.eprint outcome.desk.console.err
  match outcome.exit with
  | .ok code => return UInt32.ofNat code
  | .error escape =>
    IO.eprintln (reportFault escape)
    return 1

end WarningSweep.Main

def main (arguments : List String) : IO UInt32 := WarningSweep.Main.runHere arguments
