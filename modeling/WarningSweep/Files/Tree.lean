import WarningSweep.Files.Path
import WarningSweep.Text.Basic

/-!
# The file tree

Every file and directory has a location, the list of the names that lead to it from the root. The
root is a directory and has the empty location.
-/

namespace WarningSweep

abbrev Location := List String

inductive Entry where
  | directory
  | file (content : Bytes) (mode : Nat)
  deriving DecidableEq, Repr, Inhabited

structure Tree where
  /-- The entries besides the root, in the order in which they were made. -/
  entries : List (Location × Entry) := []
  deriving DecidableEq, Repr, Inhabited

namespace Tree

def get? (tree : Tree) (location : Location) : Option Entry :=
  if location = [] then some .directory else tree.entries.lookup location

/-- The entries after `entry` is stored at `location`, in place of what was there. -/
def store (location : Location) (entry : Entry) : List (Location × Entry) → List (Location × Entry)
  | [] => [(location, entry)]
  | other :: rest =>
    if other.1 = location then (location, entry) :: rest else other :: store location entry rest

def put (tree : Tree) (location : Location) (entry : Entry) : Tree :=
  ⟨store location entry tree.entries⟩

def erase (tree : Tree) (location : Location) : Tree :=
  ⟨tree.entries.filter fun other => other.1 ≠ location⟩

theorem lookup_store_self (location : Location) (entry : Entry)
    (entries : List (Location × Entry)) :
    (store location entry entries).lookup location = some entry := by
  induction entries with
  | nil => simp [store]
  | cons other rest ih =>
    obtain ⟨place, old⟩ := other
    by_cases same : place = location
    · simp [store, same]
    · have differs : (location == place) = false := by simpa using Ne.symm same
      simp [store, same, List.lookup_cons, differs, ih]

theorem lookup_store_of_ne {location other : Location} (entry : Entry) (differs : other ≠ location)
    (entries : List (Location × Entry)) :
    (store location entry entries).lookup other = entries.lookup other := by
  have apart : (other == location) = false := by simpa using differs
  induction entries with
  | nil => simp [store, List.lookup_cons, apart]
  | cons first rest ih =>
    obtain ⟨place, old⟩ := first
    by_cases same : place = location
    · subst same
      simp [store, List.lookup_cons, apart]
    · simp [store, same, List.lookup_cons, ih]

theorem get?_put_self {location : Location} (tree : Tree) (entry : Entry) (named : location ≠ []) :
    (tree.put location entry).get? location = some entry := by
  simp [get?, put, named, lookup_store_self]

theorem get?_put_of_ne {location other : Location} (tree : Tree) (entry : Entry)
    (differs : other ≠ location) : (tree.put location entry).get? other = tree.get? other := by
  simp [get?, put, lookup_store_of_ne entry differs]

/-- Where a walk ends: at an entry, or at a name that its directory does not hold. -/
inductive Stop where
  | found (location : Location) (entry : Entry)
  | vacant (location : Location)
  deriving DecidableEq, Repr

inductive Block where
  | missing
  | notDirectory
  | nameTooLong
  deriving DecidableEq, Repr

def nameLimit : Nat := 255

/-- Follows names from a directory; `..` goes back to the directory above. -/
def walk (tree : Tree) : (location : Location) → (names : List String) → Except Block Stop
  | location, [] => .ok (.found location .directory)
  | location, ".." :: rest => tree.walk location.dropLast rest
  | location, name :: rest =>
    let next := location ++ [name]
    if nameLimit < name.utf8ByteSize then .error .nameTooLong
    else
      match tree.get? next with
      | none => if rest = [] then .ok (.vacant next) else .error .missing
      | some .directory => tree.walk next rest
      | some (.file content mode) =>
        if rest = [] then .ok (.found next (.file content mode)) else .error .notDirectory

end Tree

end WarningSweep
