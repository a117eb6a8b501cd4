import Mathlib.Data.List.Induction
import WarningSweep.Proofs.Constant.Reading

/-!
# The identifier that a constant is named after

A line is read at the first place where a keyword starts a declaration.  The name is a whole
identifier of the line exactly when a blank stands between the keyword and the name there.  Without
a blank the keyword is itself a part of an identifier, and the constant is named after the rest of
it.
-/

namespace WarningSweep.Declaration

/-- The character before a place belongs to no word. -/
def EndsNoWord (cs : List Char) : Prop := ∀ c ∈ cs.getLast?, isWordChar c = false

/-- A text that stands at a place of the line as a whole identifier to which something is
assigned. -/
def StandsWholeAt (line identifier : List Char) (start : Nat) : Prop :=
  ∃ before blanks after, line = before ++ (identifier ++ (blanks ++ '=' :: after)) ∧
    before.length = start ∧ AreBlank blanks ∧ EndsNoWord before

theorem isWordChar_of_mem_keyword {keyword : List Char} (member : keyword ∈ keywords) :
    ∀ c ∈ keyword, isWordChar c = true := by
  have letters : (keywords.all fun keyword => keyword.all isWordChar) = true := by decide +kernel
  exact List.all_eq_true.mp (List.all_eq_true.mp letters keyword member)

theorem ne_nil_of_mem_keywords {keyword : List Char} (member : keyword ∈ keywords) :
    keyword ≠ [] := by
  rintro rfl
  revert member
  decide

theorem endsNoWord_append {second : List Char} (nonempty : second ≠ []) (first : List Char) :
    EndsNoWord (first ++ second) ↔ EndsNoWord second := by
  have last := List.getLast?_eq_some_getLast nonempty
  simp only [EndsNoWord, List.getLast?_append, last, Option.some_or]

/-- After a keyword and blanks no word goes on exactly when there is a blank. -/
theorem endsNoWord_gap_iff {keyword gap : List Char} (member : keyword ∈ keywords)
    (blank : AreBlank gap) (before : List Char) :
    EndsNoWord (before ++ keyword ++ gap) ↔ gap ≠ [] := by
  have nonempty := ne_nil_of_mem_keywords member
  constructor
  · rintro ends rfl
    rw [List.append_nil, endsNoWord_append nonempty] at ends
    have word := isWordChar_of_mem_keyword member _ (List.getLast_mem nonempty)
    rw [ends _ (List.getLast?_eq_some_getLast nonempty)] at word
    cases word
  · intro someBlank
    rw [endsNoWord_append someBlank]
    intro c last
    exact isWordChar_of_isBlank (blank c (List.mem_of_getLast? last))

theorem exists_wordRun (cs : List Char) :
    ∃ front run, cs = front ++ run ∧ (∀ c ∈ run, isWordChar c = true) ∧ EndsNoWord front := by
  induction cs using List.reverseRecOn with
  | nil => exact ⟨[], [], rfl, nofun, nofun⟩
  | append_singleton front c inductionHypothesis =>
      by_cases word : isWordChar c = true
      · obtain ⟨front', run, rfl, words, ends⟩ := inductionHypothesis
        refine ⟨front', run ++ [c], by simp, ?_, ends⟩
        intro d member
        rcases List.mem_append.mp member with earlier | last
        · exact words d earlier
        · rw [List.mem_singleton.mp last]
          exact word
      · refine ⟨front ++ [c], [], by simp, nofun, ?_⟩
        intro d last
        rw [List.getLast?_concat] at last
        cases last
        simpa using word

structure Place (line : List Char) where
  before : List Char
  keyword : List Char
  gap : List Char
  symbol : List Char
  blanks : List Char
  tail : List Char
  rest : List Char
  split : line = before ++ rest
  head : HeadCut rest keyword gap symbol blanks tail
  reads : (readAt? rest).isSome
  first : ∀ before' rest', line = before' ++ rest' → before'.length < before.length →
    readAt? rest' = none

namespace Place

variable {line : List Char}

def start (place : Place line) : Nat := (place.before ++ place.keyword ++ place.gap).length

theorem line_eq (place : Place line) :
    line = (place.before ++ place.keyword ++ place.gap) ++
      (place.symbol ++ (place.blanks ++ '=' :: place.tail)) := by
  have split := place.split
  rw [place.head.split] at split
  simpa using split

theorem standsWholeAt_symbol_iff (place : Place line) :
    StandsWholeAt line place.symbol place.start ↔ place.gap ≠ [] := by
  rw [← endsNoWord_gap_iff place.head.keyword_mem place.head.gap_blank place.before]
  constructor
  · rintro ⟨before, blanks, after, split, length, -, ends⟩
    obtain ⟨same, -⟩ := List.append_inj (split.symm.trans place.line_eq) length
    rwa [← same]
  · intro ends
    exact ⟨_, place.blanks, place.tail, place.line_eq, rfl, place.head.blank, ends⟩

/-- Without a blank after the keyword the name is the end of a longer identifier. -/
theorem exists_identifier (place : Place line) (joined : place.gap = []) :
    ∃ front run, place.before = front ++ run ∧ (∀ c ∈ run, isWordChar c = true) ∧
      StandsWholeAt line (run ++ place.keyword ++ place.symbol) front.length := by
  obtain ⟨front, run, same, words, ends⟩ := exists_wordRun place.before
  have split := place.line_eq
  rw [joined, same] at split
  refine ⟨front, run, same, words, front, place.blanks, place.tail, ?_, rfl, place.head.blank, ends⟩
  simpa using split

end Place

theorem exists_place_of_parse? {line source : String} {constant : Constant}
    (parsed : parse? line source = some constant) :
    ∃ place : Place line.toList, constant.symbol = String.ofList place.symbol := by
  rcases read?_cases line.toList with
      ⟨unread, -⟩ | ⟨before, rest, reading, split, here, read, first⟩
  · rw [parse?, unread] at parsed
    cases parsed
  · rw [parse?_of_read? read, Option.ite_none_right_eq_some] at parsed
    obtain ⟨-, same⟩ := parsed
    cases same
    have reads : (readAt? rest).isSome := Option.isSome_of_eq_some here
    rw [readAt?_eq, Option.bind_eq_some_iff] at here
    obtain ⟨⟨symbol, tail⟩, declares, here⟩ := here
    obtain ⟨-, -, rfl⟩ := Option.map_eq_some_iff.mp here
    obtain ⟨keyword, gap, blanks, head⟩ := exists_headCut_of_declared? declares
    exact ⟨⟨before, keyword, gap, symbol, blanks, tail, rest, split, head, reads, first⟩,
      trimBlanks_of_word head.word⟩

/-- The name of a constant is a whole identifier where it is read exactly when a blank stands before
it.  Otherwise it is the end of an identifier that the keyword is a part of. -/
theorem symbol_whole_iff (line source : String) (constant : Constant)
    (parsed : parse? line source = some constant) :
    ∃ place : Place line.toList, constant.symbol = String.ofList place.symbol ∧
      (StandsWholeAt line.toList constant.symbol.toList place.start ↔ place.gap ≠ []) ∧
      (place.gap = [] → ∃ front run, place.before = front ++ run ∧
        (∀ c ∈ run, isWordChar c = true) ∧
        StandsWholeAt line.toList (run ++ place.keyword ++ constant.symbol.toList)
        front.length) := by
  obtain ⟨place, named⟩ := exists_place_of_parse? parsed
  refine ⟨place, named, ?_, ?_⟩ <;> rw [named, String.toList_ofList]
  · exact place.standsWholeAt_symbol_iff
  · exact place.exists_identifier

/-- A name that begins with a keyword is whole after a keyword of its own. -/
theorem symbol_whole_iff_of_constant :
    parse? "let constant = 1 ; /* C: int */" "a.js" = some ⟨"constant", "1", "int", "a.js"⟩ ∧
    ∃ place : Place "let constant = 1 ; /* C: int */".toList,
      "constant" = String.ofList place.symbol ∧
      (StandsWholeAt "let constant = 1 ; /* C: int */".toList "constant".toList place.start ↔
        place.gap ≠ []) := by
  have parsed : parse? "let constant = 1 ; /* C: int */" "a.js" =
      some ⟨"constant", "1", "int", "a.js"⟩ := by decide +kernel
  obtain ⟨place, named, whole, -⟩ := symbol_whole_iff _ _ _ parsed
  exact ⟨parsed, place, named, whole⟩

/-- An assignment without a keyword is read as a declaration, and its name is cut. -/
theorem identifier_cut_after_keyword :
    parse? "constant=1;/*C:int*/" "a.js" = some ⟨"ant", "1", "int", "a.js"⟩ ∧
    ∀ start, ¬ StandsWholeAt "constant=1;/*C:int*/".toList "ant".toList start := by
  refine ⟨by decide +kernel, ?_⟩
  rintro start ⟨before, blanks, after, split, -, -, ends⟩
  have occurs : "ant".toList <+: "constant=1;/*C:int*/".toList.drop before.length := by
    rw [split, List.drop_left]
    exact List.prefix_append _ _
  have bound : before.length ≤ 20 := by
    have length := congrArg List.length split
    rw [List.length_append] at length
    have : "constant=1;/*C:int*/".toList.length = 20 := by decide
    omega
  have only : ∀ place ≤ 20, "ant".toList <+: "constant=1;/*C:int*/".toList.drop place →
      place = 5 := by
    decide
  have front : "constant=1;/*C:int*/".toList.take before.length = before := by
    rw [split, List.take_left]
  rw [only before.length bound occurs] at front
  rw [← front] at ends
  have cut : isWordChar 't' = false := ends 't' (by decide)
  exact absurd cut (by decide +kernel)

end WarningSweep.Declaration
