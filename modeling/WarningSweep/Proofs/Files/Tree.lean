import WarningSweep.Files.Tree

/-!
# Walks through the file tree

A walk looks only at whether the places on its way hold a directory, a file or nothing.  So two
trees of one shape are walked alike, and a file that is put in a vacant place is noticed only by a
walk that would have stopped there.
-/

namespace WarningSweep

def Entry.isFile : Entry → Bool
  | .directory => false
  | .file .. => true

namespace Tree

@[simp]
theorem get?_nil (tree : Tree) : tree.get? [] = some .directory := by simp [get?]

theorem ne_nil_of_get?_eq_none {tree : Tree} {location : Location}
    (vacant : tree.get? location = none) : location ≠ [] := by
  rintro rfl
  simp at vacant

theorem ne_nil_of_get?_eq_file {tree : Tree} {location : Location} {content : Bytes} {mode : Nat}
    (found : tree.get? location = some (.file content mode)) : location ≠ [] := by
  rintro rfl
  simp at found

/-- All that a walk does with one name. -/
theorem walk_cons (tree : Tree) (location : Location) (name : String) (rest : List String) :
    tree.walk location (name :: rest) =
      if name = ".." then tree.walk location.dropLast rest
      else if nameLimit < name.utf8ByteSize then .error .nameTooLong
      else
        match tree.get? (location ++ [name]) with
        | none => if rest = [] then .ok (.vacant (location ++ [name])) else .error .missing
        | some .directory => tree.walk (location ++ [name]) rest
        | some (.file content mode) =>
          if rest = [] then .ok (.found (location ++ [name]) (.file content mode))
          else .error .notDirectory := by
  by_cases back : name = ".."
  · subst back
    simp [walk]
  · rcases entry : tree.get? (location ++ [name]) with _ | (_ | _)
    all_goals simp [walk, back, entry]

/-- All that a walk by a name can do: it goes back, stops, or goes down into a directory. -/
theorem walk_cons_cases (tree : Tree) (location : Location) (name : String) (rest : List String) :
    (name = ".." ∧ tree.walk location (name :: rest) = tree.walk location.dropLast rest) ∨
    (name ≠ ".." ∧ nameLimit < name.utf8ByteSize ∧
      tree.walk location (name :: rest) = .error .nameTooLong) ∨
    (name ≠ ".." ∧ name.utf8ByteSize ≤ nameLimit ∧
      ((tree.get? (location ++ [name]) = none ∧ rest = [] ∧
          tree.walk location (name :: rest) = .ok (.vacant (location ++ [name]))) ∨
        (tree.get? (location ++ [name]) = none ∧ rest ≠ [] ∧
          tree.walk location (name :: rest) = .error .missing) ∨
        (tree.get? (location ++ [name]) = some .directory ∧
          tree.walk location (name :: rest) = tree.walk (location ++ [name]) rest) ∨
        ∃ content mode, tree.get? (location ++ [name]) = some (.file content mode) ∧
          ((rest = [] ∧ tree.walk location (name :: rest) =
              .ok (.found (location ++ [name]) (.file content mode))) ∨
            (rest ≠ [] ∧ tree.walk location (name :: rest) = .error .notDirectory)))) := by
  by_cases back : name = ".."
  · exact .inl ⟨back, by rw [walk_cons, if_pos back]⟩
  · by_cases long : nameLimit < name.utf8ByteSize
    · exact .inr (.inl ⟨back, long, by rw [walk_cons, if_neg back, if_pos long]⟩)
    · refine .inr (.inr ⟨back, Nat.le_of_not_lt long, ?_⟩)
      rw [walk_cons, if_neg back, if_neg long]
      cases found : tree.get? (location ++ [name]) with
      | none => by_cases last : rest = [] <;> simp [last]
      | some entry =>
          cases entry with
          | directory => simp
          | file content mode => by_cases last : rest = [] <;> simp [last]

section

variable {tree : Tree} {location place : Location} {names : List String}

theorem get?_of_walk_found {content : Bytes} {mode : Nat}
    (found : tree.walk location names = .ok (.found place (.file content mode))) :
    tree.get? place = some (.file content mode) := by
  induction names generalizing location with
  | nil => simp [walk] at found
  | cons name rest inductionHypothesis =>
      rcases tree.walk_cons_cases location name rest with ⟨-, same⟩ | ⟨-, -, same⟩ | ⟨-, -,
        ⟨-, -, same⟩ | ⟨-, -, same⟩ | ⟨-, same⟩ | ⟨_, _, here, ⟨-, same⟩ | ⟨-, same⟩⟩⟩ <;>
        rw [same] at found
      · exact inductionHypothesis found
      · cases found
      · cases found
      · cases found
      · exact inductionHypothesis found
      · cases found
        exact here
      · cases found

theorem exists_of_walk_vacant (vacant : tree.walk location names = .ok (.vacant place)) :
    tree.get? place = none ∧
      ∃ above name, place = above ++ [name] ∧ names.getLast? = some name := by
  induction names generalizing location with
  | nil => simp [walk] at vacant
  | cons name rest inductionHypothesis =>
      have later : tree.walk (location ++ [name]) rest = .ok (.vacant place) ∨
          tree.walk location.dropLast rest = .ok (.vacant place) →
          tree.get? place = none ∧ ∃ above last, place = above ++ [last] ∧
            (name :: rest).getLast? = some last := by
        intro further
        obtain ⟨nothing, above, last, split, ending⟩ :=
          further.elim inductionHypothesis inductionHypothesis
        exact ⟨nothing, above, last, split, by simp [List.getLast?_cons, ending]⟩
      rcases tree.walk_cons_cases location name rest with ⟨-, same⟩ | ⟨-, -, same⟩ | ⟨-, -,
        ⟨nothing, rfl, same⟩ | ⟨-, -, same⟩ | ⟨-, same⟩ | ⟨_, _, -, ⟨-, same⟩ | ⟨-, same⟩⟩⟩ <;>
        rw [same] at vacant
      · exact later (.inr vacant)
      · cases vacant
      · cases vacant
        exact ⟨nothing, location, name, rfl, rfl⟩
      · cases vacant
      · exact later (.inl vacant)
      · cases vacant
      · cases vacant

theorem walk_append (found : tree.walk location names = .ok (.found place .directory))
    (more : List String) : tree.walk location (names ++ more) = tree.walk place more := by
  induction names generalizing location with
  | nil =>
      cases found
      rfl
  | cons name rest inductionHypothesis =>
      rcases tree.walk_cons_cases location name rest with
          ⟨rfl, same⟩ | ⟨-, -, same⟩ | ⟨named, short,
        ⟨-, -, same⟩ | ⟨-, -, same⟩ | ⟨here, same⟩ | ⟨_, _, -, ⟨-, same⟩ | ⟨-, same⟩⟩⟩ <;>
        rw [same] at found
      · rw [List.cons_append, walk_cons, if_pos rfl]
        exact inductionHypothesis found
      · cases found
      · cases found
      · cases found
      · rw [List.cons_append, walk_cons, if_neg named, if_neg (Nat.not_lt.mpr short), here]
        exact inductionHypothesis found
      · cases found
      · cases found

end

/-- Where a walk stops, and whether a file, a directory or nothing is there. -/
def Stop.view : Stop → Location × Option Bool
  | .found location entry => (location, some entry.isFile)
  | .vacant location => (location, none)

theorem Stop.cases_of_view_eq {ε : Type} {first second : Except ε Stop}
    (same : first.map view = second.map view) :
    (∃ fault, first = .error fault ∧ second = .error fault) ∨
    (∃ place, first = .ok (.vacant place) ∧ second = .ok (.vacant place)) ∨
    ∃ place one two, first = .ok (.found place one) ∧ second = .ok (.found place two) ∧
      one.isFile = two.isFile := by
  rcases first with fault | (⟨place, one⟩ | place) <;>
    rcases second with fault' | (⟨place', two⟩ | place') <;>
    simp only [Except.map, view, Except.ok.injEq, Except.error.injEq, Prod.mk.injEq,
      Option.some.injEq, reduceCtorEq, and_true, and_false] at same
  · exact .inl ⟨fault, rfl, by rw [same]⟩
  · obtain ⟨rfl, kinds⟩ := same
    exact .inr (.inr ⟨place, one, two, rfl, rfl, kinds⟩)
  · exact .inr (.inl ⟨place, rfl, by rw [same]⟩)

def Alike (first second : Tree) : Prop :=
  ∀ location, (first.get? location).map Entry.isFile = (second.get? location).map Entry.isFile

theorem Alike.refl (tree : Tree) : Alike tree tree := fun _ => rfl

theorem Alike.trans {first second third : Tree} (one : Alike first second)
    (two : Alike second third) : Alike first third :=
  fun location => (one location).trans (two location)

/-- Trees of one shape stay so when a file is put at the same place in both. -/
theorem Alike.put {first second : Tree} (alike : Alike first second) (place : Location)
    {one two : Entry} (same : one.isFile = two.isFile) :
    Alike (first.put place one) (second.put place two) := by
  intro location
  by_cases here : location = place
  · subst here
    by_cases named : location = []
    · simp [named]
    · simp [get?_put_self _ _ named, same]
  · rw [get?_put_of_ne _ _ here, get?_put_of_ne _ _ here]
    exact alike location

theorem Alike.walk_view {first second : Tree} (alike : Alike first second) (location : Location)
    (names : List String) :
    (first.walk location names).map Stop.view = (second.walk location names).map Stop.view := by
  induction names generalizing location with
  | nil => rfl
  | cons name rest inductionHypothesis =>
      rw [walk_cons, walk_cons]
      split
      · exact inductionHypothesis _
      split
      · rfl
      have kinds := alike (location ++ [name])
      cases one : first.get? (location ++ [name]) with
      | none =>
          rw [one, Option.map_none, eq_comm, Option.map_eq_none_iff] at kinds
          rw [kinds]
      | some entry =>
          cases two : second.get? (location ++ [name]) with
          | none => simp [one, two] at kinds
          | some other =>
              rw [one, two] at kinds
              cases entry <;> cases other <;> simp [Entry.isFile] at kinds
              · exact inductionHypothesis _
              · by_cases last : rest = [] <;> simp [last, Except.map, Stop.view, Entry.isFile]

/-- A file put in a vacant place changes only the walks that stop there: they find it, or it blocks
them. -/
theorem walk_put_cases {tree : Tree} {vacancy : Location} (vacant : tree.get? vacancy = none)
    (content : Bytes) (mode : Nat) (location : Location) (names : List String) :
    (tree.put vacancy (.file content mode)).walk location names = tree.walk location names ∨
    (tree.walk location names = .ok (.vacant vacancy) ∧
      (tree.put vacancy (.file content mode)).walk location names =
        .ok (.found vacancy (.file content mode))) ∨
    (tree.walk location names = .error .missing ∧
      (tree.put vacancy (.file content mode)).walk location names = .error .notDirectory) := by
  induction names generalizing location with
  | nil => exact .inl rfl
  | cons name rest inductionHypothesis =>
      rw [walk_cons, walk_cons]
      split
      · exact inductionHypothesis _
      split
      · exact .inl rfl
      by_cases here : location ++ [name] = vacancy
      · rw [here, vacant, get?_put_self _ _ (ne_nil_of_get?_eq_none vacant)]
        by_cases last : rest = [] <;> simp [last]
      · rw [get?_put_of_ne _ _ here]
        cases tree.get? (location ++ [name]) with
        | none => exact .inl rfl
        | some entry =>
            cases entry with
            | directory => exact inductionHypothesis _
            | file content mode => exact .inl rfl

end Tree

end WarningSweep
