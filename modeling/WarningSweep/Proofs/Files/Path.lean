import Mathlib.Logic.Basic
import Mathlib.Tactic.MkIffOfInductiveProp
import WarningSweep.Files.Access

/-!
# Paths and their texts

A path is read back from its text.  Besides slashes and dots, the names of a written path hold the
characters that were written.
-/

namespace WarningSweep

theorem not_mem_of_mem_splitOn {mark : Char} {part cs : List Char}
    (member : part ∈ cs.splitOn mark) : mark ∉ part := by
  induction cs generalizing part with
  | nil => simp_all
  | cons c rest inductionHypothesis =>
      rw [List.splitOn_cons_eq_if_modifyHead] at member
      split at member
      · rcases List.mem_cons.mp member with rfl | later
        · exact List.not_mem_nil
        · exact inductionHypothesis later
      next differs =>
        cases parts : rest.splitOn mark with
        | nil => exact absurd parts (List.splitOn_ne_nil mark rest)
        | cons first others =>
            rw [parts, List.modifyHead_cons] at member
            rcases List.mem_cons.mp member with rfl | later
            · have free : mark ∉ first := inductionHypothesis (parts ▸ List.mem_cons_self)
              rw [List.mem_cons]
              rintro (rfl | within)
              · simp at differs
              · exact free within
            · exact inductionHypothesis (parts ▸ List.mem_cons_of_mem _ later)

theorem mem_intercalate_iff {mark c : Char} (differs : c ≠ mark) (parts : List (List Char)) :
    c ∈ [mark].intercalate parts ↔ ∃ part ∈ parts, c ∈ part := by
  induction parts with
  | nil => simp
  | cons part parts inductionHypothesis =>
      cases parts with
      | nil => simp
      | cons next others =>
          rw [List.intercalate_cons_cons, List.mem_append, List.mem_append, inductionHypothesis]
          simp [differs]

/-- A text that can stand between two slashes of a path and counts there. -/
@[mk_iff]
structure IsName (name : String) : Prop where
  ne_empty : name ≠ ""
  ne_dot : name ≠ "."
  noSlash : '/' ∉ name.toList

instance (name : String) : Decidable (IsName name) :=
  decidable_of_iff' _ (isName_iff name)

theorem isName_of_mem_pathNames {written name : String} (member : name ∈ pathNames written) :
    IsName name := by
  simp only [pathNames, List.mem_map, List.mem_filter] at member
  obtain ⟨part, ⟨within, counts⟩, rfl⟩ := member
  simp only [ne_eq, Bool.and_eq_true, decide_not, Bool.not_eq_true',
    decide_eq_false_iff_not] at counts
  refine ⟨?_, ?_, ?_⟩
  · simpa using counts.1
  · intro dot
    apply counts.2
    simpa using congrArg String.toList dot
  · simpa using not_mem_of_mem_splitOn within

/-- The characters of a written path that are neither slashes nor dots are those of its names. -/
theorem mem_toList_iff_pathNames {written : String} {c : Char} (noSlash : c ≠ '/')
    (noDot : c ≠ '.') :
    c ∈ written.toList ↔ ∃ name ∈ pathNames written, c ∈ name.toList := by
  have split : ['/'].intercalate (written.toList.splitOn '/') = written.toList :=
    List.intercalate_splitOn '/'
  rw [← split, mem_intercalate_iff noSlash]
  simp only [pathNames, List.mem_map, List.mem_filter]
  constructor
  · rintro ⟨part, member, within⟩
    refine ⟨String.ofList part, ⟨part, ⟨member, ?_⟩, rfl⟩, by simpa using within⟩
    have nonempty : part ≠ [] := List.ne_nil_of_mem within
    have notDot : part ≠ ['.'] := by
      rintro rfl
      exact noDot (List.mem_singleton.mp within)
    simp [nonempty, notDot]
  · rintro ⟨name, ⟨part, ⟨member, -⟩, rfl⟩, within⟩
    exact ⟨part, member, by simpa using within⟩

namespace Path

variable {path : Path}

/-- The path that some text denotes. -/
structure IsProper (path : Path) : Prop where
  root_le : path.root ≤ 2
  names : ∀ name ∈ path.names, IsName name

theorem isProper_ofString (written : String) : (ofString written).IsProper where
  root_le := by
    simp only [ofString, leadingSlashes]
    split <;> decide
  names := fun _ member => isName_of_mem_pathNames member

theorem toList_text (path : Path) :
    path.text.toList = if path.root = 0 ∧ path.names = [] then ['.']
      else List.replicate path.root '/' ++ ['/'].intercalate (path.names.map String.toList) := by
  rw [text]
  split
  · rfl
  · rw [String.toList_append, String.toList_intercalate, slashes, String.toList_ofList]
    rfl

theorem mem_toList_text_iff {c : Char} (noSlash : c ≠ '/') (noDot : c ≠ '.') :
    c ∈ path.text.toList ↔ ∃ name ∈ path.names, c ∈ name.toList := by
  rw [toList_text]
  split
  next empty => simp [empty.2, noDot]
  next => simp [noSlash, mem_intercalate_iff noSlash]

theorem mem_toList_text_ofString_iff {written : String} {c : Char} (noSlash : c ≠ '/')
    (noDot : c ≠ '.') : c ∈ (ofString written).text.toList ↔ c ∈ written.toList := by
  rw [mem_toList_text_iff noSlash noDot, mem_toList_iff_pathNames noSlash noDot]
  rfl

theorem splitOn_replicate_append (count : Nat) (cs : List Char) :
    (List.replicate count '/' ++ cs).splitOn '/' = List.replicate count [] ++ cs.splitOn '/' := by
  induction count with
  | zero => rfl
  | succ count inductionHypothesis =>
      rw [List.replicate_succ, List.cons_append, List.splitOn_cons_eq_if_modifyHead,
        inductionHypothesis]
      rfl

theorem splitOn_names (proper : path.IsProper) (named : path.names ≠ []) :
    (['/'].intercalate (path.names.map String.toList)).splitOn '/' =
      path.names.map String.toList := by
  apply List.splitOn_intercalate
  · intro part member
    obtain ⟨name, within, rfl⟩ := List.mem_map.mp member
    exact (proper.names name within).noSlash
  · simpa using named

theorem splitOn_text (proper : path.IsProper) (named : path.names ≠ []) :
    path.text.toList.splitOn '/' =
      List.replicate path.root [] ++ path.names.map String.toList := by
  rw [toList_text, if_neg (fun empty => named empty.2), splitOn_replicate_append,
    splitOn_names proper named]

theorem pathNames_text (proper : path.IsProper) : pathNames path.text = path.names := by
  by_cases named : path.names = []
  · have parts : path.text.toList.splitOn '/' = [['.']] ∨
        path.text.toList.splitOn '/' = List.replicate path.root [] ++ [[]] := by
      rw [toList_text]
      split
      · exact .inl rfl
      · rw [splitOn_replicate_append, named]
        exact .inr rfl
    rw [pathNames]
    rcases parts with parts | parts <;> simp [parts, named]
  · rw [pathNames, splitOn_text proper named, List.filter_append,
      List.filter_replicate_of_neg (by simp), List.nil_append, List.filter_eq_self.mpr]
    · simp [Function.comp_def]
    · intro part member
      obtain ⟨name, within, rfl⟩ := List.mem_map.mp member
      obtain ⟨nonempty, notDot, -⟩ := proper.names name within
      have : name.toList ≠ ['.'] := by
        intro dot
        exact notDot (String.toList_inj.mp dot)
      simp [nonempty, this]

theorem leadingSlashes_text (proper : path.IsProper) : leadingSlashes path.text = path.root := by
  have count : (path.text.toList.takeWhile (· = '/')).length = path.root := by
    rw [toList_text]
    split
    next empty => simp [empty.1]
    next =>
      rw [List.takeWhile_append_of_pos (by simp), List.length_append, List.length_replicate]
      cases names : path.names with
      | nil => simp
      | cons name rest =>
          obtain ⟨nonempty, -, noSlash⟩ := proper.names name (names ▸ List.mem_cons_self)
          cases chars : name.toList with
          | nil => exact absurd (String.toList_eq_nil_iff.mp chars) nonempty
          | cons c others =>
              have notSlash : c ≠ '/' := by
                rintro rfl
                exact noSlash (chars ▸ List.mem_cons_self)
              cases rest <;> simp [chars, notSlash]
  have bound := proper.root_le
  rw [leadingSlashes, count]
  obtain none | one | two : path.root = 0 ∨ path.root = 1 ∨ path.root = 2 := by omega
  all_goals simp [*]

theorem ofString_text (proper : path.IsProper) : ofString path.text = path := by
  rw [ofString, leadingSlashes_text proper, pathNames_text proper]

theorem pathEnd_text (proper : path.IsProper) (named : path.names ≠ []) :
    PathEnd.ofString path.text = .name := by
  obtain ⟨above, name, split⟩ := List.eq_nil_or_concat path.names |>.resolve_left named
  obtain ⟨nonempty, notDot, -⟩ := proper.names name (split ▸ by simp)
  have nonempty : name.toList ≠ [] := by simpa using nonempty
  have notDot : name.toList ≠ ['.'] := fun dot => notDot (String.toList_inj.mp dot)
  have parts : (path.text.toList.splitOn '/').reverse =
      name.toList :: (List.replicate path.root [] ++ above.map String.toList).reverse := by
    simp [splitOn_text proper named, split]
  generalize (List.replicate path.root [] ++ above.map String.toList).reverse = others at parts
  have kept : (name.toList :: others).dropWhile (· = []) = name.toList :: others :=
    List.dropWhile_cons_of_neg (by simpa using nonempty)
  simp only [PathEnd.ofString, parts, kept]
  split
  next none => cases none
  next dot => exact absurd (List.cons.inj dot).1 notDot
  next => simp [nonempty]

theorem text_of_name (name : String) : (Path.mk 0 [name]).text = name := by
  simp [Path.text, slashes]

theorem ofString_of_name {name : String} (named : IsName name) :
    ofString name = ⟨0, [name]⟩ := by
  have proper : (Path.mk 0 [name]).IsProper := ⟨by simp, by simpa using named⟩
  have whole := ofString_text proper
  rwa [Path.text_of_name] at whole

end Path

end WarningSweep
