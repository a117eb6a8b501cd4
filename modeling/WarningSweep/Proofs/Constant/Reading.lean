import WarningSweep.Proofs.Constant.Grammar

/-!
# The constant of a line

A line designates a constant only where it can be cut as a declaration.  Of all its cuts one is
chosen: the one whose keyword comes first, then the one whose semicolon comes last, then the one
whose comment ends last.  The constant has the name, the value and the type of that cut, without the
blanks around them.
-/

namespace WarningSweep

theorem trimBlanks_congr {first second : String}
    (same : Declaration.dropBlanks first.toList = Declaration.dropBlanks second.toList) :
    trimBlanks first = trimBlanks second := by
  unfold Declaration.dropBlanks at same
  unfold trimBlanks
  rw [same]

theorem trimBlanks_of_word {cs : List Char} (word : ∀ c ∈ cs, isWordChar c = true) :
    trimBlanks (String.ofList cs) = String.ofList cs := by
  have solid {cs : List Char} (word : ∀ c ∈ cs, isWordChar c = true) :
      cs.dropWhile isBlank = cs := by
    cases cs with
    | nil => rfl
    | cons c others =>
        apply List.dropWhile_cons_of_neg
        intro blank
        have letter := word c List.mem_cons_self
        rw [isWordChar_of_isBlank blank] at letter
        cases letter
  have backwards : ∀ c ∈ cs.reverse, isWordChar c = true :=
    fun c member => word c (List.mem_reverse.mp member)
  rw [trimBlanks, String.toList_ofList, solid word, solid backwards, List.reverse_reverse]

namespace Declaration

theorem ValueCut.eq_append {cs value middle ctype after : List Char}
    (cut : ValueCut cs value middle ctype after) :
    cs = value ++ (middle ++ (ctype ++ '*' :: '/' :: after)) := by
  obtain ⟨rest, split, typeCut⟩ := cut.split
  rw [split, typeCut.split]

/-- A way to cut a line as a declaration with a designation. -/
structure Cut (line : List Char) where
  before : List Char
  keyword : List Char
  gap : List Char
  symbol : List Char
  blanks : List Char
  value : List Char
  middle : List Char
  ctype : List Char
  after : List Char
  keyword_mem : keyword ∈ keywords
  gap_blank : AreBlank gap
  symbol_ne_nil : symbol ≠ []
  symbol_word : ∀ c ∈ symbol, isWordChar c = true
  blanks_blank : AreBlank blanks
  value_ne_nil : value ≠ []
  isMiddle : IsMiddle middle
  ctype_ne_nil : ctype ≠ []
  split : line = before ++ (keyword ++ (gap ++ (symbol ++ (blanks ++ '=' ::
    (value ++ (middle ++ (ctype ++ '*' :: '/' :: after)))))))

namespace Cut

variable {line : List Char}

def tail (cut : Cut line) : List Char :=
  cut.value ++ (cut.middle ++ (cut.ctype ++ '*' :: '/' :: cut.after))

def declaration (cut : Cut line) : List Char :=
  cut.keyword ++ (cut.gap ++ (cut.symbol ++ (cut.blanks ++ '=' :: cut.tail)))

def keywordAt (cut : Cut line) : Nat := cut.before.length

def semicolonAt (cut : Cut line) : Nat :=
  (cut.before ++ cut.keyword ++ cut.gap ++ cut.symbol ++ cut.blanks ++ '=' :: cut.value).length

def terminatorAt (cut : Cut line) : Nat :=
  cut.semicolonAt + (cut.middle ++ cut.ctype).length

/-- The cut by which a line is read. -/
structure IsChosen (cut : Cut line) : Prop where
  firstKeyword : ∀ other : Cut line, cut.keywordAt ≤ other.keywordAt
  lastSemicolon : ∀ other : Cut line, other.keywordAt = cut.keywordAt →
    other.semicolonAt ≤ cut.semicolonAt
  lastTerminator : ∀ other : Cut line, other.keywordAt = cut.keywordAt →
    other.semicolonAt = cut.semicolonAt → other.terminatorAt ≤ cut.terminatorAt

theorem line_eq (cut : Cut line) : line = cut.before ++ cut.declaration := cut.split

theorem headCut (cut : Cut line) :
    HeadCut cut.declaration cut.keyword cut.gap cut.symbol cut.blanks cut.tail :=
  ⟨cut.keyword_mem, cut.gap_blank, cut.symbol_ne_nil, cut.symbol_word, cut.blanks_blank, rfl⟩

theorem valueCut (cut : Cut line) :
    ValueCut cut.tail cut.value cut.middle cut.ctype cut.after :=
  ⟨cut.value_ne_nil, cut.isMiddle, _, rfl, cut.ctype_ne_nil, rfl⟩

/-- The cut that its parts before and after the equals sign make. -/
def ofParts {before rest keyword gap symbol blanks tail value middle ctype after : List Char}
    (split : line = before ++ rest) (head : HeadCut rest keyword gap symbol blanks tail)
    (body : ValueCut tail value middle ctype after) : Cut line where
  before := before
  keyword := keyword
  gap := gap
  symbol := symbol
  blanks := blanks
  value := value
  middle := middle
  ctype := ctype
  after := after
  keyword_mem := head.keyword_mem
  gap_blank := head.gap_blank
  symbol_ne_nil := head.ne_nil
  symbol_word := head.word
  blanks_blank := head.blank
  value_ne_nil := body.ne_nil
  isMiddle := body.isMiddle
  ctype_ne_nil := by
    obtain ⟨_, _, typeCut⟩ := body.split
    exact typeCut.ne_nil
  split := by
    rw [split, head.split, body.eq_append]

theorem tail_ofParts {before rest keyword gap symbol blanks tail value middle ctype
    after : List Char}
    (split : line = before ++ rest) (head : HeadCut rest keyword gap symbol blanks tail)
    (body : ValueCut tail value middle ctype after) : (ofParts split head body).tail = tail :=
  body.eq_append.symm

theorem semicolonAt_add (cut : Cut line) :
    cut.semicolonAt + cut.tail.length = line.length + cut.value.length := by
  have whole := congrArg List.length cut.line_eq
  simp only [declaration, List.length_append, List.length_cons] at whole
  simp only [semicolonAt, List.length_append, List.length_cons]
  omega

/-- Cuts with one keyword declare the same name, and what follows the equals sign is the same. -/
theorem eq_of_keywordAt_eq {cut other : Cut line} (same : other.keywordAt = cut.keywordAt) :
    other.symbol = cut.symbol ∧ other.tail = cut.tail := by
  have declarations : other.declaration = cut.declaration :=
    (List.append_inj (other.line_eq.symm.trans cut.line_eq) same).2
  have declares := declared?_of_headCut other.headCut
  rw [declarations, declared?_of_headCut cut.headCut] at declares
  simpa [eq_comm] using declares

theorem value_length_le_iff {cut other : Cut line} (same : other.keywordAt = cut.keywordAt) :
    other.value.length ≤ cut.value.length ↔ other.semicolonAt ≤ cut.semicolonAt := by
  have tails := congrArg List.length (eq_of_keywordAt_eq same).2
  have one := cut.semicolonAt_add
  have two := other.semicolonAt_add
  omega

theorem eq_of_semicolonAt_eq {cut other : Cut line} (same : other.keywordAt = cut.keywordAt)
    (equal : other.semicolonAt = cut.semicolonAt) :
    other.value = cut.value ∧ other.middle = cut.middle ∧
      other.ctype ++ '*' :: '/' :: other.after = cut.ctype ++ '*' :: '/' :: cut.after := by
  have tails := (eq_of_keywordAt_eq same).2
  have lengths : other.value.length = cut.value.length :=
    Nat.le_antisymm ((value_length_le_iff same).mpr equal.le)
      ((value_length_le_iff same.symm).mpr equal.ge)
  obtain ⟨values, behind⟩ := List.append_inj tails lengths
  obtain ⟨middles, types⟩ := other.isMiddle.unique cut.isMiddle behind
  exact ⟨values, middles, types⟩

theorem ctype_length_le_iff {cut other : Cut line} (same : other.keywordAt = cut.keywordAt)
    (equal : other.semicolonAt = cut.semicolonAt) :
    other.ctype.length ≤ cut.ctype.length ↔ other.terminatorAt ≤ cut.terminatorAt := by
  obtain ⟨-, middles, -⟩ := eq_of_semicolonAt_eq same equal
  simp only [terminatorAt, equal, middles, List.length_append]
  omega

/-- The cuts by which a line is read have one name, one value and one type. -/
theorem IsChosen.unique {cut other : Cut line} (chosen : cut.IsChosen) (chosen' : other.IsChosen) :
    other.symbol = cut.symbol ∧ other.value = cut.value ∧ other.ctype = cut.ctype := by
  have same : other.keywordAt = cut.keywordAt :=
    Nat.le_antisymm (chosen'.firstKeyword cut) (chosen.firstKeyword other)
  have equal : other.semicolonAt = cut.semicolonAt :=
    Nat.le_antisymm (chosen.lastSemicolon other same) (chosen'.lastSemicolon cut same.symm)
  obtain ⟨values, -, types⟩ := eq_of_semicolonAt_eq same equal
  have lengths : other.ctype.length = cut.ctype.length :=
    Nat.le_antisymm
      ((ctype_length_le_iff same equal).mpr (chosen.lastTerminator other same equal))
      ((ctype_length_le_iff same.symm equal.symm).mpr
        (chosen'.lastTerminator cut same.symm equal.symm))
  exact ⟨(eq_of_keywordAt_eq same).1, values, (List.append_inj types lengths).1⟩

/-- A cut is chosen where no keyword comes earlier, and the value and then the type is the
longest. -/
theorem isChosen_ofParts
    {before rest keyword gap symbol blanks tail value middle ctype after : List Char}
    {split : line = before ++ rest} {head : HeadCut rest keyword gap symbol blanks tail}
    {body : ValueCut tail value middle ctype after}
    (least : ∀ other : Cut line, before.length ≤ other.keywordAt)
    (longest : ∀ value' middle' ctype' after', ValueCut tail value' middle' ctype' after' →
      value'.length ≤ value.length ∧
        (value'.length = value.length → ctype'.length ≤ ctype.length)) :
    (ofParts split head body).IsChosen := by
  have bounds (other : Cut line) (same : other.keywordAt = (ofParts split head body).keywordAt) :
      other.value.length ≤ value.length ∧
        (other.value.length = value.length → other.ctype.length ≤ ctype.length) := by
    have body' := other.valueCut
    rw [(eq_of_keywordAt_eq same).2, tail_ofParts] at body'
    exact longest _ _ _ _ body'
  refine ⟨least, ?_, ?_⟩
  · intro other same
    exact (value_length_le_iff same).mp (bounds other same).1
  · intro other same equal
    have values := congrArg List.length (eq_of_semicolonAt_eq same equal).1
    exact (ctype_length_le_iff same equal).mp ((bounds other same).2 values)

theorem exists_readAt? (oneLine : '\n' ∉ line) (cut : Cut line) :
    ∃ reading, readAt? cut.declaration = some reading := by
  have single : '\n' ∉ cut.tail := by
    intro member
    apply oneLine
    rw [cut.line_eq]
    simp [declaration, member]
  rcases valueAndType?_cases single with ⟨-, none⟩ | ⟨takenValue, takenType, _, _, _, _, read, -⟩
  · exact absurd cut.valueCut (none _ _ _ _)
  · refine ⟨⟨String.ofList cut.symbol, String.ofList takenValue, String.ofList takenType⟩, ?_⟩
    simp [readAt?_eq, declared?_of_headCut cut.headCut, read]

end Cut

/-- A reading that says what a cut does, but for blanks at the start of the value and the type. -/
structure Renders (reading : Reading) {line : List Char} (cut : Cut line) : Prop where
  symbol : reading.symbol = String.ofList cut.symbol
  value : dropBlanks reading.value.toList = dropBlanks cut.value
  ctype : dropBlanks reading.ctype.toList = dropBlanks cut.ctype

/-- A line is read by the chosen cut, and is not read only where it has no cut. -/
theorem read?_cases_cut {line : List Char} (oneLine : '\n' ∉ line) :
    (read? line = none ∧ IsEmpty (Cut line)) ∨
    ∃ (reading : Reading) (cut : Cut line),
      read? line = some reading ∧ cut.IsChosen ∧ Renders reading cut := by
  rcases read?_cases line with ⟨unread, nowhere⟩ | ⟨before, rest, reading, split, here, read, least⟩
  · refine .inl ⟨unread, ⟨?_⟩⟩
    intro cut
    obtain ⟨reading, found⟩ := cut.exists_readAt? oneLine
    rw [nowhere _ _ cut.line_eq] at found
    cases found
  · rw [readAt?_eq, Option.bind_eq_some_iff] at here
    obtain ⟨⟨symbol, tail⟩, declares, here⟩ := here
    obtain ⟨⟨takenValue, takenType⟩, found, rfl⟩ := Option.map_eq_some_iff.mp here
    obtain ⟨keyword, gap, blanks, head⟩ := exists_headCut_of_declared? declares
    have single : '\n' ∉ tail := by
      intro member
      apply oneLine
      rw [split, head.split]
      simp [member]
    rcases valueAndType?_cases single with ⟨none, -⟩ |
      ⟨_, _, value, middle, ctype, after, found', body, longest, sameValue, sameType⟩
    · rw [none] at found
      cases found
    · rw [found'] at found
      cases found
      refine .inr ⟨_, .ofParts split head body, read, Cut.isChosen_ofParts ?_ longest, ?_⟩
      · intro other
        by_contra earlier
        obtain ⟨_, found⟩ := other.exists_readAt? oneLine
        rw [least _ _ other.line_eq (Nat.lt_of_not_le earlier)] at found
        cases found
      · refine ⟨rfl, ?_, ?_⟩ <;> rw [String.toList_ofList]
        · exact sameValue
        · exact sameType

/-- What keeps the parts of a reading from being those of a constant. -/
theorem faults_eq_nil_iff (reading : Reading) (source : String) :
    ([.symbol, .value, .ctype, .source].filterMap fun part =>
      Constant.faultOf? part (parts reading source part)) = [] ↔
    (trimBlanks reading.symbol ≠ "" ∧ (trimBlanks reading.symbol).toList.all isSymbolChar = true) ∧
      trimBlanks reading.value ≠ "" ∧ trimBlanks reading.ctype ≠ "" := by
  rw [List.filterMap_eq_nil_iff]
  simp [parts, Constant.faultOf?, Constant.problem?, Constant.clean]

theorem parse?_of_read? {line : String} {reading : Reading}
    (read : read? line.toList = some reading) (source : String) :
    parse? line source =
      if (trimBlanks reading.symbol ≠ "" ∧
            (trimBlanks reading.symbol).toList.all isSymbolChar = true) ∧
          trimBlanks reading.value ≠ "" ∧ trimBlanks reading.ctype ≠ "" then
        some ⟨trimBlanks reading.symbol, trimBlanks reading.value, trimBlanks reading.ctype, source⟩
      else none := by
  simp only [parse?, read, Constant.ofParts, ← faults_eq_nil_iff reading source]
  split
  next made =>
    split at made
    next faultless =>
      cases made
      rw [if_pos faultless]
      rfl
    next => cases made
  next failed =>
    split at failed
    next => cases failed
    next faulty => rw [if_neg faulty]

/-- Blanks at the start of the value and the type do not show in the constant. -/
theorem parse?_of_renders {line : String} {reading : Reading} {cut : Cut line.toList}
    (read : read? line.toList = some reading) (renders : Renders reading cut) (source : String) :
    parse? line source =
      if trimBlanks (String.ofList cut.value) = "" ∨ trimBlanks (String.ofList cut.ctype) = "" ∨
          cut.symbol.all isSymbolChar = false then none
      else some
        { symbol := String.ofList cut.symbol
          value := trimBlanks (String.ofList cut.value)
          ctype := trimBlanks (String.ofList cut.ctype)
          source := source } := by
  have symbol : trimBlanks reading.symbol = String.ofList cut.symbol := by
    rw [renders.symbol, trimBlanks_of_word cut.symbol_word]
  have value : trimBlanks reading.value = trimBlanks (String.ofList cut.value) :=
    trimBlanks_congr (by rw [String.toList_ofList, renders.value])
  have ctype : trimBlanks reading.ctype = trimBlanks (String.ofList cut.ctype) :=
    trimBlanks_congr (by rw [String.toList_ofList, renders.ctype])
  have named : String.ofList cut.symbol ≠ "" := by simpa using cut.symbol_ne_nil
  rw [parse?_of_read? read, symbol, value, ctype]
  generalize trimBlanks (String.ofList cut.value) = value
  generalize trimBlanks (String.ofList cut.ctype) = ctype
  have sound : ((String.ofList cut.symbol ≠ "" ∧
      (String.ofList cut.symbol).toList.all isSymbolChar = true) ∧ value ≠ "" ∧ ctype ≠ "") ↔
      ¬ (value = "" ∨ ctype = "" ∨ cut.symbol.all isSymbolChar = false) := by
    rw [String.toList_ofList, not_or, not_or, Bool.not_eq_false]
    constructor
    · rintro ⟨⟨-, letters⟩, solidValue, solidType⟩
      exact ⟨solidValue, solidType, letters⟩
    · rintro ⟨solidValue, solidType, letters⟩
      exact ⟨⟨named, letters⟩, solidValue, solidType⟩
  simp only [sound, ite_not]

/-- The constant of a line is that of its chosen cut, and there is none where the line has no cut,
where the value or the type is blank, or where the name has a character that no symbol has. -/
theorem parse?_exact (line source : String) (oneLine : '\n' ∉ line.toList) :
    (IsEmpty (Cut line.toList) → parse? line source = none) ∧
    (Nonempty (Cut line.toList) → ∃ cut : Cut line.toList, cut.IsChosen) ∧
    ∀ cut : Cut line.toList, cut.IsChosen →
      parse? line source =
        if trimBlanks (String.ofList cut.value) = "" ∨ trimBlanks (String.ofList cut.ctype) = "" ∨
            cut.symbol.all isSymbolChar = false then none
        else some
          { symbol := String.ofList cut.symbol
            value := trimBlanks (String.ofList cut.value)
            ctype := trimBlanks (String.ofList cut.ctype)
            source := source } := by
  rcases read?_cases_cut oneLine with ⟨unread, empty⟩ | ⟨reading, cut, read, chosen, renders⟩
  · refine ⟨?_, ?_, ?_⟩
    · intro
      rw [parse?, unread]
    · rintro ⟨cut⟩
      exact empty.elim cut
    · intro cut
      exact empty.elim cut
  · refine ⟨?_, fun _ => ⟨cut, chosen⟩, ?_⟩
    · intro empty
      exact empty.elim cut
    · intro other chosen'
      obtain ⟨symbols, values, types⟩ := chosen.unique chosen'
      rw [symbols, values, types]
      exact parse?_of_renders read renders source

/-- Two declarations on a line are read as one, and so are two comments after them. -/
theorem parse?_exact_two_declarations :
    '\n' ∉ "var a = 1;/*C:x*/; let b = 2 ; /* C: char * */ /* c */".toList ∧
    parse? "var a = 1;/*C:x*/; let b = 2 ; /* C: char * */ /* c */" "a.js" =
      some ⟨"a", "1;/*C:x*/; let b = 2", "char * */ /* c", "a.js"⟩ ∧
    ∃ cut : Cut "var a = 1;/*C:x*/; let b = 2 ; /* C: char * */ /* c */".toList,
      cut.IsChosen ∧ String.ofList cut.symbol = "a" ∧
      trimBlanks (String.ofList cut.value) = "1;/*C:x*/; let b = 2" ∧
      trimBlanks (String.ofList cut.ctype) = "char * */ /* c" := by
  have oneLine : '\n' ∉ "var a = 1;/*C:x*/; let b = 2 ; /* C: char * */ /* c */".toList := by decide
  have parsed : parse? "var a = 1;/*C:x*/; let b = 2 ; /* C: char * */ /* c */" "a.js" =
      some ⟨"a", "1;/*C:x*/; let b = 2", "char * */ /* c", "a.js"⟩ := by decide +kernel
  obtain ⟨none, exists_chosen, read⟩ := parse?_exact _ "a.js" oneLine
  refine ⟨oneLine, parsed, ?_⟩
  by_cases nonempty : Nonempty (Cut "var a = 1;/*C:x*/; let b = 2 ; /* C: char * */ /* c */".toList)
  · obtain ⟨cut, chosen⟩ := exists_chosen nonempty
    rw [read cut chosen] at parsed
    split at parsed
    · cases parsed
    · rw [Option.some.injEq, Constant.mk.injEq] at parsed
      exact ⟨cut, chosen, parsed.1, parsed.2.1, parsed.2.2.1⟩
  · rw [none ⟨fun cut => nonempty ⟨cut⟩⟩] at parsed
    cases parsed

end Declaration

end WarningSweep
