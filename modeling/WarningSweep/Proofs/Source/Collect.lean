import WarningSweep.Proofs.Files.Access
import WarningSweep.Proofs.Files.Tree
import WarningSweep.Source.Collect

/-!
# What collecting finds

In a well-formed tree every path that is collected leads to a file, and collecting fails only where
a path is too long.
-/

namespace WarningSweep

namespace Tree

/-- Every entry is listed once, under names, and all above it are directories. -/
@[mk_iff]
structure Proper (tree : Tree) : Prop where
  listed : ∀ entry ∈ tree.entries, tree.get? entry.1 = some entry.2
  above : ∀ entry ∈ tree.entries, ∀ depth < entry.1.length,
    tree.get? (entry.1.take depth) = some .directory
  names : ∀ entry ∈ tree.entries, ∀ name ∈ entry.1, IsEntryName name

instance (tree : Tree) : Decidable tree.Proper :=
  decidable_of_iff' _ (proper_iff tree)

theorem Proper.walk_eq {tree : Tree} (proper : tree.Proper) {location : Location}
    {names : List String} {content : Bytes} {mode : Nat} (named : names ≠ [])
    (listed : (location ++ names, Entry.file content mode) ∈ tree.entries) :
    tree.walk location names = .ok (.found (location ++ names) (.file content mode)) := by
  induction names generalizing location with
  | nil => exact absurd rfl named
  | cons name rest inductionHypothesis =>
      have entryName := proper.names _ listed name (by simp)
      rw [walk_cons, if_neg entryName.ne_above, if_neg (Nat.not_lt.mpr entryName.short)]
      by_cases last : rest = []
      · subst last
        rw [proper.listed _ listed]
        rfl
      · rw [List.append_cons location name rest] at listed ⊢
        have above := proper.above _ listed (location ++ [name]).length (by
          simp [List.length_pos_iff.mpr last])
        rw [List.take_left] at above
        rw [above]
        exact inductionHypothesis last listed

end Tree

namespace Source

structure IsSource (files : Files) (path : String) (location : Location) (content : Bytes)
    (mode : Nat) : Prop where
  text : (Path.ofString path).text = path
  found : files.find path = .ok (location, .file content mode)

theorem below?_eq_some_iff {directory location : Location} {names : List String} :
    below? directory location = some names ↔ location = directory ++ names ∧ names ≠ [] := by
  constructor
  · intro below
    rw [below?] at below
    split at below
    next inside =>
      cases below
      simp only [Bool.and_eq_true, List.isPrefixOf_iff_prefix, decide_eq_true_eq] at inside
      obtain ⟨⟨rest, rfl⟩, longer⟩ := inside
      rw [List.drop_left]
      refine ⟨rfl, ?_⟩
      rintro rfl
      simp at longer
    next => cases below
  · rintro ⟨rfl, named⟩
    have longer := List.length_pos_iff.mpr named
    simp [below?, longer]

theorem exists_of_mem_wantedBelow {tree : Tree} {directory : Location}
    {suffixes names : List String}
    (member : names ∈ wantedBelow tree directory suffixes) :
    names ≠ [] ∧ ∃ content mode, (directory ++ names, Entry.file content mode) ∈ tree.entries := by
  obtain ⟨⟨location, entry⟩, listed, wanted⟩ := List.mem_filterMap.mp member
  cases entry with
  | directory => cases wanted
  | file content mode =>
      obtain ⟨rfl, named⟩ := below?_eq_some_iff.mp (Option.filter_eq_some_iff.mp wanted).1
      exact ⟨named, content, mode, listed⟩

theorem mem_allBelow {tree : Tree} {directory : Location} {names : List String} {entry : Entry}
    (named : names ≠ []) (listed : (directory ++ names, entry) ∈ tree.entries) :
    names ∈ allBelow tree directory :=
  List.mem_filterMap.mpr ⟨_, listed, below?_eq_some_iff.mpr ⟨rfl, named⟩⟩

/-- A given path that cannot be looked at because it, or that of an entry below it, is too long. -/
def Overlong (files : Files) (given : String) : Prop :=
  let path := Path.ofString given
  files.find path.text = .error .nameTooLong ∨
    ∃ location, files.find path.text = .ok (location, .directory) ∧
      ∃ names ∈ allBelow files.tree location, pathLimit ≤ (childText path names).utf8ByteSize

variable {files : Files} (proper : files.tree.Proper)

include proper

theorem isSource_childText {path : Path} (isProper : path.IsProper) {location : Location}
    (found : files.find path.text = .ok (location, .directory)) {names : List String}
    {content : Bytes} {mode : Nat} (named : names ≠ [])
    (listed : (location ++ names, Entry.file content mode) ∈ files.tree.entries)
    (short : (childText path names).utf8ByteSize < pathLimit) :
    IsSource files (childText path names) (location ++ names) content mode := by
  have entryNames : ∀ name ∈ names, IsEntryName name := by
    intro name member
    exact proper.names _ listed name (List.mem_append_right _ member)
  let child : Path := { path with names := path.names ++ names }
  have childProper : child.IsProper := by
    refine ⟨isProper.root_le, ?_⟩
    intro name member
    rcases List.mem_append.mp member with above | below
    · exact isProper.names name above
    · exact (entryNames name below).toIsName
  have childNamed : child.names ≠ [] := by simp [child, named]
  obtain ⟨admitted, walked, -⟩ := Files.find_eq_ok_iff.mp found
  rw [Path.leadingSlashes_text isProper, Path.pathNames_text isProper,
    Files.walk_eq_ok_iff] at walked
  refine ⟨congrArg Path.text (Path.ofString_text childProper), ?_⟩
  rw [childText, Files.find_eq_ok_iff, Path.leadingSlashes_text childProper,
    Path.pathNames_text childProper, Files.walk_eq_ok_iff]
  refine ⟨?_, ?_, .inr (Path.pathEnd_text childProper childNamed)⟩
  · rw [admitPath_eq_ok_iff] at admitted ⊢
    refine ⟨?_, ?_, short⟩
    · rw [Path.mem_toList_text_iff (by decide) (by decide)] at admitted ⊢
      rintro ⟨name, member, null⟩
      rcases List.mem_append.mp member with above | below
      · exact admitted.1 ⟨name, above, null⟩
      · exact (entryNames name below).noNull null
    · intro empty
      have none := Path.pathNames_text childProper
      rw [empty] at none
      exact childNamed none.symm
  · rw [Tree.walk_append walked]
    exact proper.walk_eq named listed

/-- All that a given path can stand for: a fault because a path is too long, nothing, or paths that
lead to files. -/
theorem expand_cases (suffixes : List String) (given : String) :
    (Overlong files given ∧
      ∃ fault, expand files suffixes given = .error fault ∧ fault.cause = .nameTooLong) ∨
    ¬ Overlong files given ∧ ∃ found, expand files suffixes given = .ok found ∧
      ∀ path ∈ found.getD [],
        ∃ location content mode, IsSource files path location content mode := by
  have isProper := Path.isProper_ofString given
  have same : (Path.ofString (Path.ofString given).text).text = (Path.ofString given).text :=
    congrArg Path.text (Path.ofString_text isProper)
  simp only [expand, Files.lookFor, Overlong]
  cases found : files.find (Path.ofString given).text with
  | error cause =>
      cases cause with
      | nameTooLong => exact .inl ⟨.inl rfl, _, rfl, rfl⟩
      | _ => exact .inr ⟨by simp, none, rfl, by simp⟩
  | ok place =>
      obtain ⟨location, _ | ⟨content, mode⟩⟩ := place
      · cases long : (allBelow files.tree location).find? fun names =>
            pathLimit ≤ (childText (Path.ofString given) names).utf8ByteSize with
        | some names =>
            have tooLong := List.find?_some long
            refine .inl ⟨.inr ⟨location, rfl, names, List.mem_of_find?_eq_some long,
              of_decide_eq_true tooLong⟩, ⟨.nameTooLong, [childText (Path.ofString given) names]⟩,
                ?_,
              rfl⟩
            simp only [bind, Except.bind, long]
            rfl
        | none =>
            have short := List.find?_eq_none.mp long
            simp only [decide_eq_true_eq, Nat.not_le] at short
            refine .inr ⟨?_, some ((sortNames (wantedBelow files.tree location suffixes)).map
              (childText (Path.ofString given))), ?_, ?_⟩
            · rintro (failed | ⟨place, found', names, member, tooLong⟩)
              · cases failed
              · cases found'
                exact absurd (short names member) (Nat.not_lt.mpr tooLong)
            · simp only [bind, Except.bind, long]
              rfl
            · intro path member
              obtain ⟨names, sorted, rfl⟩ := List.mem_map.mp member
              obtain ⟨named, content, mode, listed⟩ :=
                exists_of_mem_wantedBelow (List.mem_mergeSort.mp sorted)
              exact ⟨_, content, mode, isSource_childText proper isProper found named listed
                (short names (mem_allBelow named listed))⟩
      · refine .inr ⟨by simp, some [(Path.ofString given).text], rfl, ?_⟩
        intro path member
        obtain rfl := List.mem_singleton.mp member
        exact ⟨location, content, mode, same, found⟩

theorem expandAll_cases (suffixes paths : List String) :
    ((∃ given ∈ paths, Overlong files given) ∧
      ∃ fault, (expandAll files suffixes paths).1 = .error fault ∧ fault.cause = .nameTooLong) ∨
    (∀ given ∈ paths, ¬ Overlong files given) ∧
      ∃ found, (expandAll files suffixes paths).1 = .ok found ∧
        ∀ path ∈ found, ∃ location content mode, IsSource files path location content mode := by
  induction paths with
  | nil => exact .inr ⟨by simp, [], rfl, by simp⟩
  | cons given rest inductionHypothesis =>
      rw [expandAll, List.forall_mem_cons]
      rcases expand_cases proper suffixes given with
        ⟨long, fault, failed, cause⟩ | ⟨short, found, same, here⟩
      · rw [failed]
        exact .inl ⟨⟨given, List.mem_cons_self, long⟩, fault, rfl, cause⟩
      · rw [same]
        rcases inductionHypothesis with
          ⟨⟨path, member, long⟩, fault, failed, cause⟩ | ⟨none, more, others, later⟩
        · exact .inl ⟨⟨path, List.mem_cons_of_mem _ member, long⟩, fault,
            by simp [failed, Except.map], cause⟩
        · refine .inr ⟨⟨short, none⟩, found.getD [] ++ more, by simp [others, Except.map], ?_⟩
          intro path member
          exact (List.mem_append.mp member).elim (here path) (later path)

/-- Collecting fails exactly if a path is too long, and what is collected are files. -/
theorem collect_cases (paths extensions : List String) :
    ((∃ given ∈ paths, Overlong files given) ∧
      ∃ fault, (collect files paths extensions).1 = .error fault ∧ fault.cause = .nameTooLong) ∨
    (∀ given ∈ paths, ¬ Overlong files given) ∧
      ∃ sources, (collect files paths extensions).1 = .ok sources ∧
        ∀ path ∈ sources, ∃ location content mode, IsSource files path location content mode := by
  rw [collect]
  rcases expanded : expandAll files (extensions.map lowerCase) paths with ⟨result, log⟩
  have result_cases := expandAll_cases proper (extensions.map lowerCase) paths
  rw [expanded] at result_cases
  rcases result_cases with ⟨long, fault, failed, cause⟩ | ⟨short, found, same, files⟩
  · cases failed
    exact .inl ⟨long, fault, rfl, cause⟩
  · cases same
    refine .inr ⟨short, found.eraseDups, rfl, ?_⟩
    intro path member
    exact files path (List.mem_eraseDups.mp member)

end Source

end WarningSweep
