import WarningSweep.Proofs.Files.Path
import WarningSweep.Proofs.Files.Tree
import WarningSweep.Proofs.Operation

/-!
# What a path leads to

A path that leads somewhere has been walked to its end.  Only a text with a NUL is refused as no
path.
-/

namespace WarningSweep

@[mk_iff]
structure IsEntryName (name : String) : Prop extends IsName name where
  ne_above : name ≠ ".."
  noNull : '\x00' ∉ name.toList
  short : name.utf8ByteSize ≤ Tree.nameLimit

instance (name : String) : Decidable (IsEntryName name) :=
  decidable_of_iff' _ (isEntryName_iff name)

theorem admitPath_eq (written : String) :
    admitPath written =
      if '\x00' ∈ written.toList then .error .noPath
      else if written = "" then .error .missing
      else if pathLimit ≤ written.utf8ByteSize then .error .nameTooLong
      else .ok () := by
  simp [admitPath]

theorem admitPath_eq_noPath_iff {written : String} :
    admitPath written = .error .noPath ↔ '\x00' ∈ written.toList := by
  rw [admitPath_eq]
  split
  next null => simp [null]
  next free =>
    split
    · simp [free]
    · split <;> simp [free]

theorem admitPath_eq_ok_iff {written : String} :
    admitPath written = .ok () ↔
      '\x00' ∉ written.toList ∧ written ≠ "" ∧ written.utf8ByteSize < pathLimit := by
  rw [admitPath_eq]
  by_cases null : '\x00' ∈ written.toList
  · simp [null]
  · by_cases empty : written = ""
    · simp [empty]
    · by_cases long : pathLimit ≤ written.utf8ByteSize
      · simp [null, empty, long]
      · simp [null, empty, long, Nat.lt_of_not_le long]

theorem mapError_cause_ne_noPath (walked : Except Tree.Block Tree.Stop) :
    walked.mapError Tree.Block.cause ≠ .error .noPath := by
  cases walked with
  | ok stop =>
      intro same
      cases same
  | error block => cases block <;> intro same <;> cases same

namespace Files

open Operation

variable {files : Files} {written : String}

theorem walk_eq_ok_iff {root : Nat} {names : List String} {stop : Tree.Stop} :
    files.walk root names = .ok stop ↔
      files.tree.walk (if root = 0 then files.here else []) names = .ok stop :=
  mapError_eq_ok_iff

theorem walk_ne_noPath (root : Nat) (names : List String) :
    files.walk root names ≠ .error .noPath :=
  mapError_cause_ne_noPath _

theorem find_eq_ok_iff {location : Location} {entry : Entry} :
    files.find written = .ok (location, entry) ↔
      admitPath written = .ok () ∧
        files.walk (leadingSlashes written) (pathNames written) = .ok (.found location entry) ∧
        (entry = .directory ∨ PathEnd.ofString written = .name) := by
  simp only [find, bind_eq_ok_iff]
  constructor
  · rintro ⟨⟨⟩, admitted, stop, walked, rest⟩
    refine ⟨admitted, ?_⟩
    rcases stop with ⟨place, _ | ⟨content, mode⟩⟩ | place
    · cases rest
      exact ⟨walked, .inl rfl⟩
    · dsimp only at rest
      split at rest
      next name =>
        cases rest
        exact ⟨walked, .inr name⟩
      next => cases rest
    · cases rest
  · rintro ⟨admitted, walked, kind⟩
    refine ⟨(), admitted, _, walked, ?_⟩
    cases entry with
    | directory => rfl
    | file content mode =>
        have name := kind.resolve_left (by simp)
        simp only [name, if_true]
        rfl

theorem find_eq_noPath_iff : files.find written = .error .noPath ↔ '\x00' ∈ written.toList := by
  rw [← admitPath_eq_noPath_iff, find]
  cases admitted : admitPath written with
  | error cause => simp [bind, Except.bind]
  | ok _ =>
      simp only [bind, Except.bind, reduceCtorEq, iff_false]
      cases walked : files.walk (leadingSlashes written) (pathNames written) with
      | error cause =>
          intro same
          cases same
          exact walk_ne_noPath _ _ walked
      | ok stop =>
          rcases stop with ⟨place, _ | ⟨content, mode⟩⟩ | place
          · simp [pure, Except.pure]
          · dsimp only
            split <;> simp [pure, Except.pure, throw, throwThe, MonadExceptOf.throw]
          · simp [throw, throwThe, MonadExceptOf.throw]

theorem find_of_long_name {name : String} (named : IsName name)
    (noNull : '\x00' ∉ name.toList) (long : Tree.nameLimit < name.utf8ByteSize)
    (short : name.utf8ByteSize < pathLimit) : files.find name = .error .nameTooLong := by
  have notAbove : name ≠ ".." := by
    rintro rfl
    exact absurd long (by decide)
  have path := Path.ofString_of_name named
  simp only [Path.ofString, Path.mk.injEq] at path
  rw [find, admitPath_eq_ok_iff.mpr ⟨noNull, named.ne_empty, short⟩, walk, path.1, path.2,
    Tree.walk_cons, if_neg notAbove, if_pos long]
  rfl

/-- A name that is no way up leads to the entry of that name in the working directory. -/
theorem find_of_entryName {name : String} (files : Files) (isEntryName : IsEntryName name) :
    files.find name =
      match files.tree.get? (files.here ++ [name]) with
      | some entry => .ok (files.here ++ [name], entry)
      | none => .error .missing := by
  have proper : (Path.mk 0 [name]).IsProper := ⟨by simp, by simpa using isEntryName.toIsName⟩
  have slashes := Path.leadingSlashes_text proper
  have names := Path.pathNames_text proper
  have ending := Path.pathEnd_text proper (by simp)
  have short : name.utf8ByteSize < pathLimit :=
    Nat.lt_of_le_of_lt isEntryName.short (by decide)
  rw [Path.text_of_name] at slashes names ending
  rw [find, admitPath_eq_ok_iff.mpr ⟨isEntryName.noNull, isEntryName.ne_empty, short⟩, walk,
    slashes, names, if_pos rfl, Tree.walk_cons, if_neg isEntryName.ne_above,
    if_neg (Nat.not_lt.mpr isEntryName.short)]
  rcases files.tree.get? (files.here ++ [name]) with _ | (_ | _)
  · rfl
  · rfl
  · exact if_pos ending

end Files

end WarningSweep
