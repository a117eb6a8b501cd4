import WarningSweep.Files.Access
import WarningSweep.Log.Record
import WarningSweep.Text.Encoding
import WarningSweep.Text.LetterCase
import WarningSweep.Value.Basic

/-!
# Where records go

A sink has a level below which records are dropped and the handlers that the others are written to:
the standard output, and a log file if one is asked for. While it has no handler, serious records go
to the standard error as bare messages.
-/

namespace WarningSweep.Log

namespace Level

def names : List (String × Int) :=
  [("CRITICAL", critical), ("FATAL", critical), ("ERROR", error), ("WARN", warning),
    ("WARNING", warning), ("INFO", info), ("DEBUG", debug), ("NOTSET", 0)]

def ofName? (name : String) : Option Int := names.lookup name

def name (level : Int) : String :=
  match (names.filter fun entry => entry.1 ≠ "FATAL" ∧ entry.1 ≠ "WARN").find?
      fun entry => entry.2 = level with
  | some entry => entry.1
  | none => s!"Level {level}"

/-- The level that settings ask for: any name that is none means the usual level. -/
def resolve (wanted : String) (verbose : Bool) : Int :=
  if verbose then debug else (ofName? (upperCase wanted)).getD info

end Level

/-- Where records are written to. A log file that another file has taken the place of has no
location any more, and what is written to it is lost. -/
inductive Handler where
  | stream (level : Int)
  | file (level : Int) (location : Option Location)
  deriving DecidableEq, Repr

def Handler.level : Handler → Int
  | .stream level => level
  | .file level _ => level

structure Sink where
  level : Int := Level.warning
  handlers : List Handler := []
  /-- The level of the channel of the spreadsheet library; zero leaves it to the sink's level. -/
  quietLevel : Int := 0
  deriving DecidableEq, Repr, Inhabited

/-- The channel of the spreadsheet library, which has a level of its own. -/
def quietChannel : String := "openpyxl"

/-- The log file that a setting asks for, if any; a setting that is no text can ask for none. -/
def logFilePath? : Value → Except Unit (Option String)
  | .str path => .ok (if path = "" then none else some path)
  | value => if value.truthy then .error () else .ok none

namespace Sink

/-- Opens a log file: its directory is made if need be, and what it holds is kept. -/
def openLog (written : String) : FileAction Location := do
  let path := Path.ofString written
  Files.ensureDirectories path.parent
  let files ← get
  let names := files.absoluteNames path
  let full := files.absoluteText path
  match files.openPlace ("/" ++ "/".intercalate names) with
  | .error cause => throw ⟨cause, [full]⟩
  | .ok (location, content, mode) =>
    set (files.put location (.file content mode))
    return location

/-- A new start: the level is set and the handlers are taken away. -/
def restart (sink : Sink) (level : Int) : Sink := { sink with level, handlers := [] }

/-- Adds the handlers for the standard output and, if there is one, for the log file. -/
def attach (sink : Sink) (location : Option Location) : Sink :=
  { level := sink.level
    handlers := .stream sink.level
      :: (location.map fun location => Handler.file sink.level (some location)).toList
    quietLevel := max sink.level Level.warning }

/-- Sets up a sink. A log file that cannot be opened leaves a sink that has been started anew and
has no handlers. -/
def setUp (sink : Sink) (level : Int) (logFile : Option String) (files : Files) :
    Except FileFault Unit × Sink × Files :=
  let started := sink.restart level
  match logFile with
  | none => (.ok (), started.attach none, files)
  | some path =>
    match openLog path files with
    | (.error fault, after) => (.error fault, started, after)
    | (.ok location, after) => (.ok (), started.attach (some location), after)

/-- The sink after another file has taken the place of the one at a location. -/
def lose (sink : Sink) (location : Location) : Sink :=
  { sink with handlers := sink.handlers.map fun
      | .file level place => .file level (place.filter (· ≠ location))
      | handler => handler }

def isQuiet (channel : String) : Bool :=
  channel = quietChannel || (quietChannel ++ ".").isPrefixOf channel

def levelOf (sink : Sink) (channel : String) : Int :=
  if isQuiet channel && sink.quietLevel ≠ 0 then sink.quietLevel else sink.level

def accepts (sink : Sink) (record : Record) : Bool :=
  0 < record.level && sink.levelOf record.channel ≤ record.level

def line (time : String) (record : Record) : Text :=
  let channel := if record.channel = "" then "root" else record.channel
  Text.ofString s!"{time} - {channel} - {Level.name record.level} - " ++ record.message
    ++ [Text.newline]

end Sink

/-- What a run has written to the standard output and to the standard error. -/
structure Console where
  out : String := ""
  err : String := ""
  deriving DecidableEq, Repr, Inhabited

structure Desk where
  sink : Sink := {}
  console : Console := {}
  files : Files := {}
  deriving DecidableEq, Repr, Inhabited

namespace Desk

def print (desk : Desk) (s : String) : Desk :=
  { desk with console := { desk.console with out := desk.console.out ++ s } }

def complain (desk : Desk) (s : String) : Desk :=
  { desk with console := { desk.console with err := desk.console.err ++ s } }

def appendTo (files : Files) (location : Location) (bytes : Bytes) : Files :=
  match files.tree.get? location with
  | some (.file content mode) => files.put location (.file (content ++ bytes) mode)
  | _ => files

def handle (desk : Desk) (line : String) : Handler → Desk
  | .stream _ => desk.print line
  | .file _ none => desk
  | .file _ (some location) =>
    { desk with files := appendTo desk.files location (encodeString line) }

def emit (time : String) (desk : Desk) (record : Record) : Desk :=
  if !desk.sink.accepts record then desk
  else if desk.sink.handlers = [] then
    if Level.warning ≤ record.level then
      match record.message.toString? with
      | some message => desk.complain (message ++ "\n")
      | none => desk
    else desk
  else
    match (Sink.line time record).toString? with
    | none => desk
    | some line =>
      (desk.sink.handlers.filter fun handler => handler.level ≤ record.level).foldl
        (fun desk handler => desk.handle line handler) desk

def emitAll (time : String) (desk : Desk) (records : List Record) : Desk :=
  records.foldl (emit time) desk

end Desk

end WarningSweep.Log
