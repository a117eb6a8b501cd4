import WarningSweep.Files.Access
import WarningSweep.Log.Record
import WarningSweep.Settings.Check
import WarningSweep.Yaml.Document
import WarningSweep.Yaml.Print.Document

/-!
# Settings as documents

Settings are kept in a file: a document with one entry for each setting.
-/

namespace WarningSweep.Settings

/-! ## Loading settings

Settings are the standard ones with the entries of a map stored over them. Entries with other names
are reported and left out. A document is read from a file, and the environment has the last word on
the log level.
-/

/-- The records sent so far, and the settings or the fault that ended the loading. -/
abbrev Loaded := Except Fault Settings × List Log.Record

def storeEntry (settings : Settings) (key : String) (value : Value) : Loaded :=
  match reserved? key with
  | some .operation => (.ok { settings with others := key :: settings.others }, [])
  | some .whole =>
    match value with
    | .map node entries =>
      let whole := Value.map node entries
      (.ok (ofWhole (entries.map fun entry => (entry.1, whole.part entry.2))), [])
    | _ => (.error .wrongKind, [])
  | some .idle => (.ok settings, [])
  | some .closed => (.error .wrongKind, [])
  | some .sealed => (.error .noMember, [])
  | none =>
    if settings.knows key then
      match Field.ofKey? key with
      | some field => (.ok (settings.set field value), [])
      | none => (.ok settings, [])
    else (.ok settings, [Log.Channel.config.warning s!"Unknown configuration key ignored: {key}"])

/-- Stores entries in their order, up to the first one that cannot be stored. -/
def storeEntries (settings : Settings) : List (Value × Value) → Loaded
  | [] => (.ok settings, [])
  | (.str key, value) :: rest =>
    match settings.storeEntry key value with
    | (.error fault, log) => (.error fault, log)
    | (.ok settings, log) =>
      let (result, more) := settings.storeEntries rest
      (result, log ++ more)
  | _ :: _ => (.error .wrongKind, [])

def ofValue : Value → Loaded
  | .map _ entries => storeEntries {} entries
  | _ => (.error .noMember, [])

def readDocument (files : Files) (path : String) : Except Fault Value := do
  let content ← (files.read path).mapError Fault.file
  (Yaml.load content).mapError Fault.document

/-- Reads settings from a file. A document without content has no entries. -/
def load (files : Files) (environmentLevel : Option String) (path : String) : Loaded :=
  match readDocument files path with
  | .error fault => (.error fault, [])
  | .ok value =>
    match ofValue (if value.truthy then value else .map none []) with
    | (.error fault, log) => (.error fault, log)
    | (.ok settings, log) =>
      let level := (environmentLevel.map Value.str).getD settings.logLevel
      (.ok { settings with logLevel := level },
        log ++ [Log.Channel.config.info s!"Configuration loaded from {path}"])

/-! ## Saving settings

Settings are written as a document with one entry for each setting. The names of the report file and
of the log file are left out when they are not set.
-/

/-- The settings with their names, in the order of documents. The list of extensions is a new
one. -/
def toEntries (settings : Settings) : Except Fault (List (Field × Value)) := do
  if settings.covers "to_dict" then throw .wrongKind
  let extensions ← settings.extensionItems
  return Field.all.map fun field =>
    (field, if field = .extensions then .list none extensions else (settings.get? field).getD .null)

/-- Whether an entry is written: the two file names only when they are set. -/
def isWritten (entry : Field × Value) : Bool :=
  !(entry.1 = .reportFile || entry.1 = .logFile) || entry.2.truthy

def content (entries : List (Field × Value)) : Value :=
  .map none ((entries.filter isWritten).map fun entry => (.str entry.1.key, entry.2))

abbrev Action := ExceptT Fault (StateM Files)

def ofFileAction {α : Type} (action : FileAction α) : Action α := fun files =>
  let (result, after) := action files
  (result.mapError Fault.file, after)

/-- Writes the settings to a file in a directory that is made if need be. The file is opened first,
and stays empty when the settings cannot be written. -/
def save (settings : Settings) (path : String) : Action Log.Record := do
  if settings.covers "save_yaml" then throw .wrongKind
  ofFileAction (Files.ensureDirectories (Path.ofString path).parent)
  let value := content (← settings.toEntries)
  if !value.writable then
    ofFileAction (Files.write path [])
    throw .longNumber
  ofFileAction (Files.write path (encodeString (Yaml.print value)))
  return Log.Channel.config.info s!"Configuration saved to {path}"

end WarningSweep.Settings
