import WarningSweep.Marker.Basic
import WarningSweep.Sweep
import WarningSweep.Value.Basic

/-!
# Settings

There are nine settings, and each has a standard value. A setting holds any value that a settings
document can give it: whether the value can be used shows only when it is needed. All settings can
be given at once as a map, which may leave the list of extensions out and bring names of its own.
-/

namespace WarningSweep

structure Settings where
  startMarker : Value := .str Markers.standardStart
  stopMarker : Value := .str Markers.standardStop
  warningHead : Value := .str Sweep.standardWarningHead
  literalWord : Value := .str "CFSTR"
  /-- The extensions, unless they were left out. -/
  extensions : Option Value := some (.list none ([".m", ".mm", ".h", ".c", ".cpp"].map Value.str))
  dryRun : Value := .bool false
  reportFile : Value := .null
  logLevel : Value := .str "INFO"
  logFile : Value := .null
  /-- Other names that were given a value. The value of an operation's name takes its place. -/
  others : List String := []
  deriving Inhabited

namespace Settings

inductive Field where
  | startMarker
  | stopMarker
  | warningHead
  | literalWord
  | extensions
  | dryRun
  | reportFile
  | logLevel
  | logFile
  deriving DecidableEq, Repr

namespace Field

def all : List Field :=
  [.startMarker, .stopMarker, .warningHead, .literalWord, .extensions, .dryRun,
    .reportFile, .logLevel,
    .logFile]

def key : Field → String
  | .startMarker => "start_marker"
  | .stopMarker => "end_marker"
  | .warningHead => "warning_prefix"
  | .literalWord => "constant_string_macro"
  | .extensions => "source_extensions"
  | .dryRun => "dry_run"
  | .reportFile => "report_file"
  | .logLevel => "log_level"
  | .logFile => "log_file"

def ofKey? (key : String) : Option Field := all.find? fun field => field.key = key

end Field

def get? (settings : Settings) : Field → Option Value
  | .startMarker => some settings.startMarker
  | .stopMarker => some settings.stopMarker
  | .warningHead => some settings.warningHead
  | .literalWord => some settings.literalWord
  | .extensions => settings.extensions
  | .dryRun => some settings.dryRun
  | .reportFile => some settings.reportFile
  | .logLevel => some settings.logLevel
  | .logFile => some settings.logFile

def set (settings : Settings) (field : Field) (value : Value) : Settings :=
  match field with
  | .startMarker => { settings with startMarker := value }
  | .stopMarker => { settings with stopMarker := value }
  | .warningHead => { settings with warningHead := value }
  | .literalWord => { settings with literalWord := value }
  | .extensions => { settings with extensions := some value }
  | .dryRun => { settings with dryRun := value }
  | .reportFile => { settings with reportFile := value }
  | .logLevel => { settings with logLevel := value }
  | .logFile => { settings with logFile := value }

inductive Reserved where
  /-- An operation on settings, which the value covers. -/
  | operation
  /-- All settings at once. -/
  | whole
  /-- A name that takes any value and means nothing. -/
  | idle
  /-- A name that takes no value of this kind. -/
  | closed
  /-- A name that takes no value at all. -/
  | sealed
  deriving DecidableEq, Repr

def reserved? (key : String) : Option Reserved :=
  if ["validate", "to_dict", "save_yaml", "from_dict", "from_yaml"].contains key then
    some .operation
  else if key = "__dict__" then some .whole
  else if key = "__class__" then some .closed
  else if key = "__weakref__" then some .sealed
  else if ["__annotations__", "__dataclass_fields__", "__dataclass_params__",
    "__delattr__", "__dir__",
      "__doc__", "__eq__", "__format__", "__ge__", "__getattribute__", "__getstate__", "__gt__",
      "__hash__", "__init__", "__init_subclass__", "__le__", "__lt__", "__match_args__",
      "__module__", "__ne__", "__new__", "__reduce__", "__reduce_ex__", "__repr__", "__setattr__",
      "__sizeof__", "__str__", "__subclasshook__"].contains key then some .idle
  else none

def covers (settings : Settings) (operation : String) : Bool := settings.others.contains operation

/-- Whether settings have a value under a name that they do not reserve. -/
def knows (settings : Settings) (key : String) : Bool :=
  match Field.ofKey? key with
  | some field => (settings.get? field).isSome
  | none => settings.others.contains key

/-- The settings that a map of all of them gives: what it leaves out is standard, but there are no
standard extensions then. -/
def ofWhole (entries : List (Value × Value)) : Settings :=
  entries.foldl (fun settings entry =>
    match entry.1 with
    | .str key =>
      match Field.ofKey? key with
      | some field => settings.set field entry.2
      | none => { settings with others := key :: settings.others }
    | _ => settings) { extensions := none }

end Settings

end WarningSweep
