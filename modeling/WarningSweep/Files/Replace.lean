import WarningSweep.Files.Access

/-!
# Replacing a file at once

The new bytes are written to a temporary file beside the target, which then takes the target's place
in one step. Whatever fails, the temporary file is removed and the target is left as it was.
-/

namespace WarningSweep

/-- What keeps the names of temporary files apart: letters, digits and underscores. -/
structure Stamp where
  text : String
  isPlain : text.toList.all (fun c => c.isAlphanum || c = '_')
  deriving DecidableEq, Repr

def Stamp.ofText? (text : String) : Option Stamp :=
  if isPlain : text.toList.all (fun c => c.isAlphanum || c = '_') then some ⟨text, isPlain⟩
  else none

namespace Files

def privateMode : Nat := 0o600

def directoryMode : Nat := 0o755

def temporaryName (path : Path) (stamp : Stamp) : String :=
  "." ++ path.name ++ "." ++ stamp.text ++ ".tmp"

/-- The temporary file's path beside the target, with its location if it can be made there. -/
def temporaryPlace (files : Files) (path : Path) (stamp : Stamp) :
    String × Except FileCause Tree.Stop :=
  let directory := path.parent
  let name := temporaryName path stamp
  let written := files.absoluteText { directory with names := directory.names ++ [name] }
  (written, do
    admitPath written
    (files.tree.walk [] (files.absoluteNames directory ++ [name])).mapError Tree.Block.cause)

/-- Makes an empty temporary file beside the target, with the first stamp whose name is free. -/
def makeTemporary (stamps : List Stamp) (path : Path) : FileAction (String × Location) := do
  let files ← get
  let rec attempt : List Stamp → FileAction (String × Location)
    | [] => throw ⟨.exists, []⟩
    | stamp :: rest =>
      match files.temporaryPlace path stamp with
      | (written, .error cause) => throw ⟨cause, [written]⟩
      | (_, .ok (.found ..)) => attempt rest
      | (written, .ok (.vacant location)) => do
        set (files.put location (.file [] privateMode))
        return (written, location)
  attempt stamps

def modeOf : Entry → Nat
  | .directory => directoryMode
  | .file _ mode => mode

def replacePlace (files : Files) (path : Path) : Except FileCause Location :=
  match files.walk path.root path.names with
  | .error cause => .error cause
  | .ok (.vacant location) => .ok location
  | .ok (.found location (.file ..)) => .ok location
  | .ok (.found _ .directory) =>
    if path.names.getLast?.getD ".." = ".." then .error .busy else .error .isDirectory

inductive ReplaceStep where
  | make
  | fill
  | setMode
  | move
  deriving DecidableEq, Repr

structure Mishap where
  step : ReplaceStep
  cause : FileCause
  /-- How many bytes are written when writing them fails. -/
  reached : Nat := 0
  deriving DecidableEq, Repr

def risk (mishap : Option Mishap) (step : ReplaceStep) : Except FileFault Unit :=
  match mishap with
  | none => .ok ()
  | some mishap => if mishap.step = step then .error ⟨mishap.cause, []⟩ else .ok ()

def bytesReached (mishap : Option Mishap) (bytes : Bytes) : Bytes :=
  match mishap with
  | none => bytes
  | some mishap => if mishap.step = .fill then bytes.take mishap.reached else bytes

/-- Gives the temporary file its bytes, and the mode of the target if that is there. -/
def fillTemporary (mishap : Option Mishap) (path : Path) (bytes : Bytes) (place : Location) :
    FileAction Unit := do
  modify (·.put place (.file (bytesReached mishap bytes) privateMode))
  risk mishap .fill
  match ← (← get).lookFor path.text with
  | none => pure ()
  | some (_, entry) =>
    risk mishap .setMode
    modify (·.put place (.file bytes (modeOf entry)))

def moveOver (mishap : Option Mishap) (temporary : String × Location) (path : Path) :
    FileAction Unit := do
  risk mishap .move
  let files ← get
  match admitPath path.text, files.replacePlace path, files.tree.get? temporary.2 with
  | .error cause, _, _ => throw ⟨cause, [temporary.1, path.text]⟩
  | .ok _, .error cause, _ => throw ⟨cause, [temporary.1, path.text]⟩
  | .ok _, .ok _, none => throw ⟨.missing, [temporary.1, path.text]⟩
  | .ok _, .ok location, some entry =>
    set { files with tree := (files.tree.erase temporary.2).put location entry }

/-- Puts bytes in the place of a file: a file that is there keeps its mode, a new one is private. A
step that fails is followed by the removal of the temporary file. -/
def replaceAmid (stamps : List Stamp) (mishap : Option Mishap) (written : String) (bytes : Bytes) :
    FileAction Unit := do
  let path := Path.ofString written
  risk mishap .make
  let temporary ← makeTemporary stamps path
  let finish : FileAction Unit := do
    fillTemporary mishap path bytes temporary.2
    moveOver mishap temporary path
  tryCatch finish fun fault => do
    modify fun files => { files with tree := files.tree.erase temporary.2 }
    throw fault

/-- Puts bytes in the place of a file. `moveFault` is a cause for which the last step fails. -/
def replace (stamps : List Stamp) (written : String) (bytes : Bytes)
    (moveFault : Option FileCause) :
    FileAction Unit :=
  replaceAmid stamps (moveFault.map fun cause => { step := .move, cause }) written bytes

end Files

end WarningSweep
