import WarningSweep.Files.Access
import WarningSweep.Log.Record
import WarningSweep.Text.LetterCase

/-!
# Collecting source files

A file that is named is always taken. A directory stands for the files at any depth below it whose
suffix is asked for, sorted name by name. No path is taken twice.
-/

namespace WarningSweep.Source

/-- Whether a file name has one of the suffixes, all given in small letters. -/
def hasSuffix (suffixes : List String) (name : String) : Bool :=
  suffixes.contains (lowerCase (Path.suffixOf name))

def below? (directory location : Location) : Option (List String) :=
  if directory.isPrefixOf location && directory.length < location.length then
    some (location.drop directory.length)
  else none

/-- All entries below a directory, each by the names that lead to it. -/
def allBelow (tree : Tree) (directory : Location) : List (List String) :=
  tree.entries.filterMap fun entry => below? directory entry.1

/-- The wanted files below a directory, each by the names that lead to it. -/
def wantedBelow (tree : Tree) (directory : Location) (suffixes : List String) :
    List (List String) :=
  tree.entries.filterMap fun (location, entry) =>
    match entry with
    | .directory => none
    | .file .. => (below? directory location).filter fun names =>
        hasSuffix suffixes (names.getLast?.getD "")

/-- Whether a name comes before another one, by the first characters in which they differ. -/
def nameBefore : List Char → List Char → Bool
  | _, [] => false
  | [], _ :: _ => true
  | a :: as, b :: bs => if a = b then nameBefore as bs else a.toNat < b.toNat

/-- Whether a path does not come after another one, by the first names in which they differ. -/
def notAfter : List String → List String → Bool
  | [], _ => true
  | _ :: _, [] => false
  | a :: as, b :: bs => if a = b then notAfter as bs else nameBefore a.toList b.toList

def sortNames (files : List (List String)) : List (List String) := files.mergeSort notAfter

/-- The path of what lies below a directory, by the names that lead to it. -/
def childText (path : Path) (names : List String) : String :=
  ({ path with names := path.names ++ names } : Path).text

/-- The paths that one given path stands for; none if nothing is there. Every entry below a
directory is looked at, so one whose path is too long is a fault. -/
def expand (files : Files) (suffixes : List String) (given : String) :
    Except FileFault (Option (List String)) := do
  let path := Path.ofString given
  match ← files.lookFor path.text with
  | none => return none
  | some (_, .file ..) => return some [path.text]
  | some (location, .directory) =>
    match (allBelow files.tree location).find? fun names =>
        pathLimit ≤ (childText path names).utf8ByteSize with
    | some names => throw ⟨.nameTooLong, [childText path names]⟩
    | none =>
        return some ((sortNames (wantedBelow files.tree location suffixes)).map (childText path))

/-- The paths that given paths stand for, in their order, or the fault that ends the search, with
the records sent before. -/
def expandAll (files : Files) (suffixes : List String) :
    List String → Except FileFault (List String) × List Log.Record
  | [] => (.ok [], [])
  | given :: rest =>
    match expand files suffixes given with
    | .error fault => (.error fault, [])
    | .ok found =>
      let (result, log) := expandAll files suffixes rest
      (result.map (found.getD [] ++ ·),
        if found.isSome then log
        else Log.Channel.sources.warning s!"Path does not exist: {given}" :: log)

/-- The source files that the given paths stand for, with the records of collecting them. -/
def collect (files : Files) (paths extensions : List String) :
    Except FileFault (List String) × List Log.Record :=
  match expandAll files (extensions.map lowerCase) paths with
  | (.error fault, log) => (.error fault, log)
  | (.ok found, log) =>
    let sources := found.eraseDups
    (.ok sources, log ++ [Log.Channel.sources.debug s!"Found {sources.length} source files"])

end WarningSweep.Source
