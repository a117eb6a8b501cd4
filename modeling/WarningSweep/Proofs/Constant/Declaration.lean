import Mathlib.Data.List.TakeWhile
import WarningSweep.Constant.Declaration
import WarningSweep.Text.Basic

/-!
# The type in a designation

The type of a designated constant ends where the last comment on its line does.  It holds all but
the last of the comment terminators that follow the colon of the designation.
-/

namespace WarningSweep

def terminators : List Char → Nat
  | [] => 0
  | c :: rest => terminators rest + if c = '*' ∧ rest.head? = some '/' then 1 else 0

theorem terminators_cons (c : Char) (cs : List Char) :
    terminators (c :: cs) =
      terminators cs + if c = '*' ∧ cs.head? = some '/' then 1 else 0 := rfl

theorem terminators_cons_of_ne {c : Char} (differs : c ≠ '*') (cs : List Char) :
    terminators (c :: cs) = terminators cs := by
  simp [terminators, differs]

/-- A terminator stands on one side of a cut unless the second part starts with its slash. -/
theorem terminators_append {second : List Char} (apart : second.head? ≠ some '/')
    (first : List Char) :
    terminators (first ++ second) = terminators first + terminators second := by
  induction first with
  | nil => simp [terminators]
  | cons c rest inductionHypothesis =>
      cases rest with
      | nil => simp [terminators, apart]
      | cons d others =>
          rw [List.cons_append, terminators_cons c, inductionHypothesis, terminators_cons c,
            List.cons_append, List.head?_cons, List.head?_cons]
          omega

theorem terminators_eq_zero_iff {cs : List Char} : terminators cs = 0 ↔ ¬ ['*', '/'] <:+: cs := by
  induction cs with
  | nil => simp [terminators]
  | cons c rest inductionHypothesis =>
      have here : ['*', '/'] <+: c :: rest ↔ c = '*' ∧ rest.head? = some '/' := by
        cases rest with
        | nil => simp
        | cons d others => simp [eq_comm]
      rw [terminators, List.infix_cons_iff, here]
      split
      next found => simp [found]
      next missing => simp [missing, inductionHypothesis]

theorem terminators_eq_zero_of_not_mem {c : Char} (part : c = '*' ∨ c = '/') {cs : List Char}
    (missing : c ∉ cs) : terminators cs = 0 := by
  rw [terminators_eq_zero_iff]
  intro within
  apply missing
  apply within.subset
  rcases part with rfl | rfl <;> decide

theorem terminators_le_of_suffix {first second : List Char} (within : first <:+ second) :
    terminators first ≤ terminators second := by
  obtain ⟨front, rfl⟩ := within
  induction front with
  | nil => exact Nat.le_refl _
  | cons c rest inductionHypothesis =>
      rw [List.cons_append, terminators_cons]
      omega

theorem isBlank_star : isBlank '*' = false := by decide

theorem terminators_starless_append {front : List Char} (starless : '*' ∉ front) (cs : List Char) :
    terminators (front ++ cs) = terminators cs := by
  induction front with
  | nil => rfl
  | cons c rest inductionHypothesis =>
      rw [List.mem_cons, not_or] at starless
      rw [List.cons_append, terminators_cons_of_ne (Ne.symm starless.1)]
      exact inductionHypothesis starless.2

theorem terminators_blanks_append {blanks : List Char} (blank : ∀ c ∈ blanks, isBlank c = true)
    (cs : List Char) : terminators (blanks ++ cs) = terminators cs := by
  apply terminators_starless_append
  intro star
  have := blank '*' star
  simp [isBlank_star] at this

theorem terminators_append_blanks {blanks : List Char} (blank : ∀ c ∈ blanks, isBlank c = true)
    (cs : List Char) : terminators (cs ++ blanks) = terminators cs := by
  have apart : blanks.head? ≠ some '/' := by
    intro slash
    have := blank '/' (List.mem_of_head? slash)
    revert this
    decide
  have none := terminators_blanks_append blank []
  rw [List.append_nil] at none
  rw [terminators_append apart, none]
  rfl

theorem terminators_trimBlanks (s : String) :
    terminators (trimBlanks s).toList = terminators s.toList := by
  have left : terminators (s.toList.dropWhile isBlank) = terminators s.toList := by
    have split := List.takeWhile_append_dropWhile (p := isBlank) (l := s.toList)
    rw [← congrArg terminators split]
    exact (terminators_blanks_append (fun c member => List.mem_takeWhile_imp member) _).symm
  have right : ∀ cs : List Char,
      terminators (cs.reverse.dropWhile isBlank).reverse = terminators cs := by
    intro cs
    have split := congrArg List.reverse
      (List.takeWhile_append_dropWhile (p := isBlank) (l := cs.reverse))
    rw [List.reverse_append, List.reverse_reverse] at split
    rw [← congrArg terminators split]
    refine (terminators_append_blanks ?_ _).symm
    intro c member
    exact List.mem_takeWhile_imp (List.mem_reverse.mp member)
  rw [trimBlanks, String.toList_ofList, right, left]

namespace Declaration

theorem after?_eq_some_iff {front cs rest : List Char} :
    after? front cs = some rest ↔ cs = front ++ rest := by
  rw [after?]
  split
  next start =>
    obtain ⟨tail, rfl⟩ := List.isPrefixOf_iff_prefix.mp start
    simp [eq_comm]
  next other =>
    refine ⟨nofun, ?_⟩
    rintro rfl
    exact absurd (List.isPrefixOf_iff_prefix.mpr (List.prefix_append _ _)) other

theorem suffix_of_afterBlanks? {front cs rest : List Char}
    (found : afterBlanks? front cs = some rest) : front ++ rest <:+ cs := by
  have split := after?_eq_some_iff.mp found
  rw [← split]
  exact List.dropWhile_suffix _

theorem exists_of_longestFront {α : Type} {reading : List Char → List Char → Option α}
    {taken cs : List Char} {result : α} (found : longestFront reading taken cs = some result) :
    ∃ front rest, rest <:+ cs ∧ reading front rest = some result := by
  induction cs generalizing taken with
  | nil => cases found
  | cons c rest inductionHypothesis =>
      rw [longestFront] at found
      split at found
      · cases found
      · split at found
        next longer =>
          cases found
          obtain ⟨front, last, within, read⟩ := inductionHypothesis longer
          exact ⟨front, last, within.trans (List.suffix_cons c rest), read⟩
        next => exact ⟨c :: taken, rest, List.suffix_cons c rest, found⟩

theorem exists_of_frontAfterBlanks {α : Type} {reading : List Char → List Char → Option α}
    {cs : List Char} {result : α} (found : frontAfterBlanks reading cs = some result) :
    ∃ front rest, rest <:+ cs ∧ reading front rest = some result := by
  induction cs with
  | nil => cases found
  | cons c rest inductionHypothesis =>
      rw [frontAfterBlanks] at found
      split at found
      · split at found
        next later =>
          cases found
          obtain ⟨front, last, within, read⟩ := inductionHypothesis later
          exact ⟨front, last, within.trans (List.suffix_cons c rest), read⟩
        next =>
          split at found
          · cases found
          · exact ⟨[c], rest, List.suffix_cons c rest, found⟩
      · exact exists_of_longestFront found

theorem suffix_of_designation? {cs rest : List Char} (found : designation? cs = some rest) :
    ':' :: rest <:+ cs := by
  simp only [designation?, Option.bind_eq_bind, Option.bind_eq_some_iff] at found
  obtain ⟨first, semicolon, second, comment, third, letter, colon⟩ := found
  have within {front rest cs : List Char} (found : afterBlanks? front cs = some rest) :
      rest <:+ cs :=
    (List.suffix_append front rest).trans (suffix_of_afterBlanks? found)
  exact (suffix_of_afterBlanks? colon).trans
    ((within letter).trans ((within comment).trans (within semicolon)))

theorem exists_of_valueAndType? {cs value ctype : List Char}
    (found : valueAndType? cs = some (value, ctype)) :
    ∃ after, ':' :: after <:+ cs ∧ ctype? after = some ctype := by
  obtain ⟨front, rest, within, read⟩ := exists_of_frontAfterBlanks found
  simp only [Option.bind_eq_bind, Option.bind_eq_some_iff, Option.pure_def, Option.some.injEq,
    Prod.mk.injEq] at read
  obtain ⟨after, designated, _, typed, -, rfl⟩ := read
  exact ⟨after, (suffix_of_designation? designated).trans within, typed⟩

theorem exists_of_named? {cs : List Char} {reading : Reading} (found : named? cs = some reading) :
    ∃ after, ':' :: after <:+ cs ∧ ctype? after = some reading.ctype.toList := by
  rw [named?] at found
  split at found
  · cases found
  · simp only [Option.bind_eq_bind, Option.bind_eq_some_iff, Option.pure_def,
      Option.some.injEq] at found
    obtain ⟨start, equals, ⟨value, ctype⟩, read, rfl⟩ := found
    obtain ⟨after, within, typed⟩ := exists_of_valueAndType? read
    have inside : start <:+ cs :=
      ((List.suffix_append _ start).trans (suffix_of_afterBlanks? equals)).trans
        (List.dropWhile_suffix _)
    exact ⟨after, within.trans inside, by simpa using typed⟩

theorem exists_of_readAt? {cs : List Char} {reading : Reading} (found : readAt? cs = some reading) :
    ∃ after, ':' :: after <:+ cs ∧ ctype? after = some reading.ctype.toList := by
  simp only [readAt?, Option.bind_eq_bind, Option.bind_eq_some_iff] at found
  obtain ⟨rest, keyword, named⟩ := found
  obtain ⟨front, -, split⟩ := List.exists_of_findSome?_eq_some keyword
  obtain ⟨after, within, typed⟩ := exists_of_named? named
  have inside : rest <:+ cs := by
    rw [after?_eq_some_iff.mp split]
    exact List.suffix_append front rest
  exact ⟨after, (within.trans (List.dropWhile_suffix _)).trans inside, typed⟩

theorem exists_of_read? {cs : List Char} {reading : Reading} (found : read? cs = some reading) :
    ∃ after, ':' :: after <:+ cs ∧ ctype? after = some reading.ctype.toList := by
  induction cs with
  | nil => cases found
  | cons c rest inductionHypothesis =>
      rw [read?] at found
      split at found
      next here =>
        cases found
        exact exists_of_readAt? here
      next =>
        obtain ⟨after, within, ctype⟩ := inductionHypothesis found
        exact ⟨after, within.trans (List.suffix_cons c rest), ctype⟩

/-- A type that is read from a front ends before a comment terminator. -/
def typeReading (front rest : List Char) : Option (List Char) :=
  (afterBlanks? ['*', '/'] rest).map fun _ => front.reverse

theorem terminators_of_afterBlanks? {rest after : List Char}
    (found : afterBlanks? ['*', '/'] rest = some after) :
    rest.head? ≠ some '/' ∧ 0 < terminators rest := by
  have closed : rest.dropWhile isBlank = ['*', '/'] ++ after := after?_eq_some_iff.mp found
  have split := List.takeWhile_append_dropWhile (p := isBlank) (l := rest)
  rw [closed] at split
  have blank : ∀ c ∈ rest.takeWhile isBlank, isBlank c = true :=
    fun c member => List.mem_takeWhile_imp member
  generalize rest.takeWhile isBlank = blanks at split blank
  subst split
  constructor
  · cases blanks with
    | nil => simp
    | cons c others =>
        intro slash
        cases slash
        exact absurd (blank '/' List.mem_cons_self) (by decide)
  · rw [terminators_blanks_append blank]
    simp [terminators]

theorem terminators_le_of_tail (cs : List Char) : terminators cs ≤ terminators cs.tail + 1 := by
  cases cs with
  | nil => simp [terminators]
  | cons c rest =>
      rw [terminators_cons, List.tail_cons]
      split <;> omega

theorem terminators_of_afterBlanks?_eq_none {rest : List Char}
    (missing : afterBlanks? ['*', '/'] rest = none) : terminators rest = terminators rest.tail := by
  cases rest with
  | nil => rfl
  | cons c others =>
      rw [terminators_cons, List.tail_cons, if_neg, Nat.add_zero]
      rintro ⟨rfl, slash⟩
      obtain ⟨after, rfl⟩ := List.head?_eq_some_iff.mp slash
      rw [afterBlanks?, dropBlanks, List.dropWhile_cons_of_neg (by simp [isBlank_star])] at missing
      have found : after? ['*', '/'] ('*' :: '/' :: after) = some after :=
        after?_eq_some_iff.mpr rfl
      rw [missing] at found
      cases found

/-- The longest type leaves a single terminator behind it, and where there is none, no terminator
stands after the first character. -/
theorem longestFront_typeReading {cs : List Char} (oneLine : '\n' ∉ cs) (taken : List Char) :
    (longestFront typeReading taken cs = none ∧ terminators cs.tail = 0) ∨
    ∃ front rest, cs = front ++ rest ∧
      longestFront typeReading taken cs = some (taken.reverse ++ front) ∧
      rest.head? ≠ some '/' ∧ terminators rest = 1 := by
  induction cs generalizing taken with
  | nil => exact .inl ⟨rfl, rfl⟩
  | cons c rest inductionHypothesis =>
      rw [List.mem_cons, not_or] at oneLine
      rw [longestFront, if_neg (Ne.symm oneLine.1)]
      rcases inductionHypothesis oneLine.2 (c :: taken) with ⟨shorter, few⟩ |
        ⟨front, last, rfl, found, apart, one⟩
      · rw [shorter, typeReading]
        cases closed : afterBlanks? ['*', '/'] rest with
        | none =>
            rw [← terminators_of_afterBlanks?_eq_none closed] at few
            exact .inl ⟨rfl, few⟩
        | some after =>
            obtain ⟨apart, some⟩ := terminators_of_afterBlanks? closed
            have bound := terminators_le_of_tail rest
            exact .inr ⟨[c], rest, rfl, by simp, apart, by omega⟩
      · rw [found]
        exact .inr ⟨c :: front, last, rfl, by simp, apart, one⟩

/-- A type that is not blank holds all the terminators of its designation but the last. -/
theorem terminators_ctype? {cs ctype : List Char} (oneLine : '\n' ∉ cs)
    (found : ctype? cs = some ctype) (nonblank : trimBlanks (String.ofList ctype) ≠ "") :
    terminators cs = terminators ctype + 1 := by
  have found : frontAfterBlanks typeReading cs = some ctype := found
  induction cs with
  | nil => cases found
  | cons c rest inductionHypothesis =>
      rw [frontAfterBlanks] at found
      split at found
      next blank =>
        have same : terminators ([c] ++ rest) = terminators rest :=
          terminators_blanks_append (by simpa using blank) rest
        rw [List.singleton_append] at same
        rw [same]
        split at found
        next later =>
          cases found
          exact inductionHypothesis (fun member =>
            oneLine (List.mem_cons_of_mem _ member)) later later
        next =>
          -- a single blank is no type
          split at found
          · cases found
          · rw [typeReading, Option.map_eq_some_iff] at found
            obtain ⟨_, -, rfl⟩ := found
            simp [trimBlanks, blank] at nonblank
      next =>
        rcases longestFront_typeReading oneLine [] with
          ⟨none, -⟩ | ⟨front, last, split, read, apart, one⟩
        · rw [none] at found
          cases found
        · rw [read] at found
          cases found
          rw [split, terminators_append apart, one]
          rfl

end Declaration

structure Designates (line source : String) (constant : Constant) (reading : Declaration.Reading) :
    Prop where
  read : Declaration.read? line.toList = some reading
  ctype_eq : constant.ctype = trimBlanks reading.ctype
  ctype_ne : constant.ctype ≠ ""
  symbol : ∀ c ∈ constant.symbol.toList, isSymbolChar c = true
  source_eq : constant.source = source

theorem Declaration.designates_of_parse? {line source : String} {constant : Constant}
    (parsed : parse? line source = some constant) :
    ∃ reading, Designates line source constant reading := by
  rw [parse?] at parsed
  split at parsed
  · cases parsed
  next reading read =>
    refine ⟨reading, ?_⟩
    rw [Constant.ofParts] at parsed
    split at parsed
    next made =>
      cases parsed
      split at made
      next faultless =>
        cases made
        rw [List.filterMap_eq_nil_iff] at faultless
        have symbol := faultless .symbol (by simp)
        have ctype := faultless .ctype (by simp)
        simp only [parts, Constant.faultOf?, Option.map_eq_none_iff, Constant.problem?,
          ite_eq_left_iff, ite_eq_right_iff, reduceCtorEq, imp_false] at symbol ctype
        exact ⟨read, rfl, ctype, List.all_eq_true.mp (Classical.not_not.mp symbol).2, rfl⟩
      next => cases made
    next => cases parsed

def IsLineContent {α : Type} (code : α → Option Char) (content : List α) : Prop :=
  ∀ x ∈ content, ∀ c, code x = some c → isLineEnd c = false

theorem isLineContent_of_mem_consLine {α : Type} {code : α → Option Char} {x : α}
    {lines : List (List α × List α)} (inside : ∀ c, code x = some c → isLineEnd c = false)
    (rest : ∀ line ∈ lines, IsLineContent code line.1) :
    ∀ line ∈ consLine x lines, IsLineContent code line.1 := by
  cases lines with
  | nil =>
      intro line member
      obtain rfl := List.mem_singleton.mp member
      simpa [IsLineContent] using inside
  | cons first others =>
      intro line member
      rcases List.mem_cons.mp member with rfl | later
      · rintro y (_ | ⟨_, within⟩)
        · exact inside
        · exact rest first List.mem_cons_self y within
      · exact rest line (List.mem_cons_of_mem _ later)

theorem isLineContent_of_mem_linesOf {α : Type} {code : α → Option Char} {xs : List α} :
    ∀ line ∈ linesOf code xs, IsLineContent code line.1 := by
  fun_induction linesOf code xs with
  | case1 => exact nofun
  | case2 x rest noChar inductionHypothesis =>
      exact isLineContent_of_mem_consLine (by simp [noChar]) inductionHypothesis
  | case3 x rest c isChar inside inductionHypothesis =>
      refine isLineContent_of_mem_consLine ?_ inductionHypothesis
      intro d same
      rw [isChar] at same
      cases same
      simpa using inside
  | case4 x c isChar isEnd => simp [IsLineContent]
  | case5 x c isChar isEnd y more pair inductionHypothesis =>
      rintro line (_ | ⟨_, later⟩)
      · exact nofun
      · exact inductionHypothesis line later
  | case6 x c isChar isEnd y more single inductionHypothesis =>
      rintro line (_ | ⟨_, later⟩)
      · exact nofun
      · exact inductionHypothesis line later

theorem newline_not_mem_of_mem_lineContents {text line : String}
    (member : line ∈ lineContents text) :
    '\n' ∉ line.toList := by
  obtain ⟨cut, within, rfl⟩ := List.mem_map.mp member
  intro newline
  have := isLineContent_of_mem_linesOf cut within '\n' (by simpa using newline) '\n' rfl
  revert this
  decide

/-- The type of a designated constant holds all but one of the terminators that follow some colon of
its line. -/
theorem Designates.terminators_eq {line source : String} {constant : Constant}
    {reading : Declaration.Reading} (designates : Designates line source constant reading)
    (oneLine : '\n' ∉ line.toList) :
    ∃ after, ':' :: after <:+ line.toList ∧
      terminators after = terminators constant.ctype.toList + 1 := by
  obtain ⟨after, within, typed⟩ := Declaration.exists_of_read? designates.read
  have single : '\n' ∉ after := by
    intro member
    exact oneLine (within.subset (List.mem_cons_of_mem _ member))
  have nonblank := designates.ctype_ne
  rw [designates.ctype_eq] at nonblank
  refine ⟨after, within, ?_⟩
  rw [designates.ctype_eq, terminators_trimBlanks]
  exact Declaration.terminators_ctype? single typed (by simpa using nonblank)

end WarningSweep
