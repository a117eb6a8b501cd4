import WarningSweep.Files.Path
import WarningSweep.Log.Record
import WarningSweep.Settings.Basic
import WarningSweep.Text.LetterCase
import WarningSweep.Yaml.Cursor

/-!
# Checking settings

The check lists what is wrong with the settings, in a fixed order. It can itself fail when a value
is of a kind that it cannot look into.
-/

namespace WarningSweep.Settings

inductive Fault where
  /-- A value, or the name of an entry, is of a kind that cannot be used. -/
  | wrongKind
  /-- A value has no entries, or a name takes no value. -/
  | noMember
  /-- An integer has too many digits to be written. -/
  | longNumber
  | file (fault : FileFault)
  | document (fault : Yaml.Fault)
  deriving DecidableEq, Repr

def longNumberMessage : String :=
  s!"Exceeds the limit ({Value.digitLimit} digits) for integer string conversion; "
    ++ "use sys.set_int_max_str_digits() to increase the limit"

def validLevels : List String := ["DEBUG", "INFO", "WARNING", "ERROR", "CRITICAL"]

def mustNotBeEmpty (field : Field) (value : Value) : List String :=
  if value.truthy then [] else [field.key ++ " must not be empty"]

def checkMarkers (settings : Settings) : List String :=
  mustNotBeEmpty .startMarker settings.startMarker
    ++ mustNotBeEmpty .stopMarker settings.stopMarker
    ++ (if settings.startMarker.truthy && settings.startMarker.same settings.stopMarker then
        ["start_marker and end_marker must differ"]
      else [])

def checkExtension (extension : Value) : List String :=
  if extension.text.startsWith "." then []
  else ["source extension must start with '.': " ++ extension.text]

def checkLevel (level : Value) : List String :=
  if validLevels.contains (upperCase level.text) then [] else ["invalid log_level: " ++ level.text]

def problems (settings : Settings) (extensions : List Value) : List String :=
  settings.checkMarkers
    ++ mustNotBeEmpty .warningHead settings.warningHead
    ++ mustNotBeEmpty .literalWord settings.literalWord
    ++ extensions.flatMap checkExtension
    ++ checkLevel settings.logLevel

def extensionItems (settings : Settings) : Except Fault (List Value) :=
  match settings.extensions with
  | none => .error .noMember
  | some value =>
    match value.items? with
    | none => .error .wrongKind
    | some items => .ok items

def reportPath? (settings : Settings) : Except Fault (Option String) :=
  match settings.reportFile with
  | .str path => .ok (if path = "" then none else some path)
  | value => if value.truthy then .error .wrongKind else .ok none

/-- What is wrong with the settings and the report's path, unless a value cannot be looked into. -/
def inspect (settings : Settings) : Except Fault (List String × Option String) := do
  if settings.covers "validate" then throw .wrongKind
  let extensions ← settings.extensionItems
  if !(extensions.all Value.writable && settings.logLevel.writable) then throw .longNumber
  let path? ← settings.reportPath?
  return (settings.problems extensions, path?)

/-- What is wrong with the settings, with the records sent while checking. -/
def check (settings : Settings) : Except Fault (List String) × List Log.Record :=
  match settings.inspect with
  | .error fault => (.error fault, [])
  | .ok (problems, path?) =>
    let unusual := path?.filter fun path => (Path.ofString path).suffix ≠ ".xlsx"
    (.ok problems, unusual.toList.map fun path =>
      Log.Channel.config.warning s!"Report file does not end in .xlsx: {path}")

end WarningSweep.Settings
