import WarningSweep.Files.Path
import WarningSweep.Files.Tree

/-!
# Reading and writing files

Operations take paths as they are written and resolve them from the working directory. An operation
that fails keeps what it has done before it failed.
-/

namespace WarningSweep

structure Files where
  tree : Tree := {}
  /-- The working directory. -/
  here : Location := []
  /-- How messages write the working directory. -/
  hereText : String := "/"
  deriving DecidableEq, Repr, Inhabited

abbrev FileAction := ExceptT FileFault (StateM Files)

/-- How a written path ends: a slash or a `.` at its end asks for a directory. -/
inductive PathEnd where
  | name
  | slash
  | dot
  deriving DecidableEq, Repr

def PathEnd.ofString (written : String) : PathEnd :=
  let parts := (written.toList.splitOn '/').reverse
  match parts.dropWhile (· = []) with
  | [] => .dot
  | ['.'] :: _ => .dot
  | _ => if parts.head? = some [] then .slash else .name

def Tree.Block.cause : Tree.Block → FileCause
  | .missing => .missing
  | .notDirectory => .notDirectory
  | .nameTooLong => .nameTooLong

def pathLimit : Nat := 4096

/-- Refuses a text that no operation takes for a path: one that is empty, too long or holds a
NUL. -/
def admitPath (written : String) : Except FileCause Unit :=
  if written.contains '\x00' then .error .noPath
  else if written = "" then .error .missing
  else if pathLimit ≤ written.utf8ByteSize then .error .nameTooLong
  else .ok ()

def newFileMode : Nat := 0o644

namespace Files

def walk (files : Files) (root : Nat) (names : List String) : Except FileCause Tree.Stop :=
  (files.tree.walk (if root = 0 then files.here else []) names).mapError Tree.Block.cause

def find (files : Files) (written : String) : Except FileCause (Location × Entry) := do
  admitPath written
  match ← files.walk (leadingSlashes written) (pathNames written) with
  | .vacant _ => throw .missing
  | .found location .directory => return (location, .directory)
  | .found location file =>
    if PathEnd.ofString written = .name then return (location, file) else throw .notDirectory

/-- What a path leads to, if it leads anywhere. A text that is no path leads nowhere, but a name
that is too long is a fault. -/
def lookFor (files : Files) (written : String) : Except FileFault (Option (Location × Entry)) :=
  match files.find written with
  | .ok found => .ok (some found)
  | .error .nameTooLong => .error ⟨.nameTooLong, [written]⟩
  | .error _ => .ok none

def present (files : Files) (written : String) : Except FileFault Bool :=
  (files.lookFor written).map Option.isSome

def isDirectory (files : Files) (written : String) : Bool :=
  match files.find written with
  | .ok (_, .directory) => true
  | _ => false

def read (files : Files) (written : String) : Except FileFault Bytes :=
  match files.find written with
  | .error cause => .error ⟨cause, [written]⟩
  | .ok (_, .directory) => .error ⟨.isDirectory, [written]⟩
  | .ok (_, .file content _) => .ok content

/-- Fails with the cause that keeps a directory from being found, or else because it is one. -/
def refuseDirectory (files : Files) (root : Nat) (names : List String) : FileCause :=
  match files.walk root names with
  | .error cause => cause
  | .ok (.vacant _) => .missing
  | .ok (.found _ .directory) => .isDirectory
  | .ok (.found _ (.file ..)) => .notDirectory

/-- Where a file is written that is opened under this path, with its content and mode so far. -/
def openPlace (files : Files) (written : String) : Except FileCause (Location × Bytes × Nat) := do
  admitPath written
  let root := leadingSlashes written
  let names := pathNames written
  match PathEnd.ofString written with
  | .dot => throw (files.refuseDirectory root names)
  | .slash => throw (files.refuseDirectory root names.dropLast)
  | .name =>
    match ← files.walk root names with
    | .vacant location => return (location, [], newFileMode)
    | .found _ .directory => throw .isDirectory
    | .found location (.file content mode) => return (location, content, mode)

def put (files : Files) (location : Location) (entry : Entry) : Files :=
  { files with tree := files.tree.put location entry }

/-- Writes a whole file; a file that is already there keeps its mode. -/
def write (written : String) (content : Bytes) : FileAction Unit := do
  match (← get).openPlace written with
  | .error cause => throw ⟨cause, [written]⟩
  | .ok (location, _, mode) => modify (·.put location (.file content mode))

def makeDirectory (files : Files) (path : Path) : Except FileCause Files := do
  admitPath path.text
  match ← files.walk path.root path.names with
  | .found .. => throw .exists
  | .vacant location => return files.put location .directory

/-- Makes a directory unless it is there; `orElse` handles a directory above that is missing. -/
def ensureDirectory (path : Path) (orElse : FileFault → FileAction Unit) : FileAction Unit := do
  let files ← get
  match files.makeDirectory path with
  | .ok after => set after
  | .error cause =>
    let fault : FileFault := ⟨cause, [path.text]⟩
    if cause = .missing then orElse fault
    else if files.isDirectory path.text then pure ()
    else throw fault

/-- Makes the directory with the given names, the last one first, and all that lead to it. -/
def ensureNames (root : Nat) : (reversed : List String) → FileAction Unit
  | [] => ensureDirectory ⟨root, []⟩ throw
  | name :: above =>
    let path : Path := ⟨root, (name :: above).reverse⟩
    ensureDirectory path fun _ => do
      ensureNames root above
      ensureDirectory path throw

/-- Makes a directory and all that lead to it, as far as they are not there. -/
def ensureDirectories (path : Path) : FileAction Unit := ensureNames path.root path.names.reverse

/-- The names of a path from the root, judged by its names alone. -/
def absoluteNames (files : Files) (path : Path) : Location :=
  collapseNames true [] (if path.root = 0 then files.here ++ path.names else path.names)

def absoluteText (files : Files) (path : Path) : String :=
  let names := files.absoluteNames path
  if files.here.isPrefixOf names && path.root ≠ 2 then
    "/".intercalate (files.hereText :: names.drop files.here.length)
  else (Path.mk (max path.root 1) names).text

end Files

end WarningSweep
