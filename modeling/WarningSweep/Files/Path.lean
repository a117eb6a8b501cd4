import WarningSweep.Text.Quoted

/-!
# Paths and faults of file operations

What a file operation is given, and what it reports when it fails.
-/

namespace WarningSweep

/-! ## Paths

A path is written with slashes between its names. Empty names and names `.` do not count, so several
spellings denote one path. A name `..` is kept, because only a walk through the files can tell where
it leads.
-/

def pathNames (written : String) : List String :=
  ((written.toList.splitOn '/').filter fun name => name ≠ [] && name ≠ ['.']).map String.ofList

/-- How many slashes start a written path: two are kept apart from any other number. -/
def leadingSlashes (written : String) : Nat :=
  match (written.toList.takeWhile (· = '/')).length with
  | 0 => 0
  | 2 => 2
  | _ => 1

def slashes (count : Nat) : String := String.ofList (List.replicate count '/')

structure Path where
  /-- The slashes before the first name: none for a path from the working directory. -/
  root : Nat
  names : List String
  deriving DecidableEq, Repr, Inhabited

namespace Path

def ofString (written : String) : Path := ⟨leadingSlashes written, pathNames written⟩

def text (p : Path) : String :=
  if p.root = 0 ∧ p.names = [] then "." else slashes p.root ++ "/".intercalate p.names

def name (p : Path) : String := p.names.getLast?.getD ""

def parent (p : Path) : Path := { p with names := p.names.dropLast }

/-- The path with another last name; a path without a name has none to change. -/
def withName? (p : Path) (name : String) : Option Path :=
  if p.names = [] then none else some { p with names := p.names.dropLast ++ [name] }

/-- The last name from its last dot on, if something stands before and after that dot. -/
def suffixOf (name : String) : String :=
  let tail := name.toList.reverse.takeWhile (· ≠ '.')
  if tail = [] ∨ name.length ≤ tail.length + 1 then "" else String.ofList ('.' :: tail.reverse)

def suffix (p : Path) : String := suffixOf p.name

end Path

/-- Takes `..` back together with the name before it; above the root there is nothing to take
back. -/
def collapseNames (rooted : Bool) : (done names : List String) → List String
  | done, [] => done.reverse
  | done, name :: rest =>
    if name = ".." then
      match done with
      | [] => collapseNames rooted (if rooted then [] else [".."]) rest
      | last :: before =>
        if last = ".." then collapseNames rooted (".." :: last :: before) rest
        else collapseNames rooted before rest
    else collapseNames rooted (name :: done) rest

def collapsePath (written : String) : String :=
  let root := leadingSlashes written
  let names := collapseNames (root ≠ 0) [] (pathNames written)
  (Path.mk root names).text

/-! ## Faults of file operations

A fault has a cause with a number and a text, and names the paths that the operation was given. A
text that holds a NUL names no path at all, and this fault has neither number nor path.
-/

inductive FileCause where
  | missing
  | busy
  | exists
  | notDirectory
  | isDirectory
  | noSpace
  | nameTooLong
  /-- The text of a path holds a NUL. -/
  | noPath
  deriving DecidableEq, Repr, Inhabited

namespace FileCause

def number? : FileCause → Option Nat
  | .missing => some 2
  | .busy => some 16
  | .exists => some 17
  | .notDirectory => some 20
  | .isDirectory => some 21
  | .noSpace => some 28
  | .nameTooLong => some 36
  | .noPath => none

def text : FileCause → String
  | .missing => "No such file or directory"
  | .busy => "Device or resource busy"
  | .exists => "File exists"
  | .notDirectory => "Not a directory"
  | .isDirectory => "Is a directory"
  | .noSpace => "No space left on device"
  | .nameTooLong => "File name too long"
  | .noPath => "embedded null byte"

end FileCause

structure FileFault where
  cause : FileCause
  /-- The path of the operation, and for a renaming also the new path. -/
  paths : List String
  deriving DecidableEq, Repr, Inhabited

namespace FileFault

/-- Whether the system reports the fault. Operations answer only for such faults. -/
def isReported (fault : FileFault) : Bool := fault.cause.number?.isSome

def message (fault : FileFault) : String :=
  match fault.cause.number? with
  | none => fault.cause.text
  | some number =>
    let head := s!"[Errno {number}] {fault.cause.text}"
    match fault.paths with
    | [] => head
    | paths => head ++ ": " ++ " -> ".intercalate (paths.map quoted)

end FileFault

end WarningSweep
