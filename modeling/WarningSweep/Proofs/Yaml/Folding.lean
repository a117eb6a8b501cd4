import Mathlib.Data.List.Infix
import Mathlib.Data.List.TakeWhile
import WarningSweep.Yaml.Print.Line

/-!
# Folded scalars

A text of printable characters is written plain or between single quotes.  Either way a space that
stands alone between two words may become a line break with the indentation of the next line, and
between quotes a quote is written twice.  Nothing else about the text changes.
-/

namespace WarningSweep

def IsPrintable (c : Char) : Prop := 0x20 ≤ c.toNat ∧ c.toNat ≤ 0x7E

instance : DecidablePred IsPrintable := fun c =>
  inferInstanceAs (Decidable (0x20 ≤ c.toNat ∧ c.toNat ≤ 0x7E))

theorem IsPrintable.ne {c d : Char} (printable : IsPrintable c)
    (other : ¬ IsPrintable d) : c ≠ d := by
  rintro rfl
  exact other printable

open Yaml in
theorem IsPrintable.isBreak_eq {c : Char} (printable : IsPrintable c) : isBreak c = false := by
  have first := printable.ne (by decide : ¬ IsPrintable '\n')
  have second := printable.ne (by decide : ¬ IsPrintable '\u0085')
  have third := printable.ne (by decide : ¬ IsPrintable '\u2028')
  have fourth := printable.ne (by decide : ¬ IsPrintable '\u2029')
  simp [isBreak, first, second, third, fourth]

open Yaml in
theorem IsPrintable.isBlankOrEnd_eq {c : Char} (printable : IsPrintable c) :
    isBlankOrEnd c = decide (c = ' ') := by
  have tab := printable.ne (by decide : ¬ IsPrintable '\t')
  have mark := printable.ne (by decide : ¬ IsPrintable endMark)
  simp [isBlankOrEnd, isSpaceOrEnd, isBreakOrEnd, tab, mark, printable.isBreak_eq]

namespace Yaml

/-- What holds of each character of a text is decided along the text, not over all characters. -/
scoped instance (priority := high) decidableForallChar (p : Char → Prop) [DecidablePred p]
    (text : List Char) : Decidable (∀ c ∈ text, p c) := List.decidableBAll p text

structure IsSolid (c : Char) : Prop where
  printable : IsPrintable c
  ne_space : c ≠ ' '

theorem IsSolid.isBlankOrEnd_eq {c : Char} (solid : IsSolid c) : isBlankOrEnd c = false := by
  rw [solid.printable.isBlankOrEnd_eq, decide_eq_false solid.ne_space]

theorem ne_space_of_solid {word : List Char} (solid : ∀ c ∈ word, IsSolid c) : word ≠ [' '] := by
  rintro rfl
  exact (solid ' ' List.mem_cons_self).ne_space rfl

/-! ## Runs -/

/-- A text starts with a run of spaces or with a run of other characters. -/
theorem exists_run {text : List Char} (printable : ∀ c ∈ text, IsPrintable c)
    (nonempty : text ≠ []) :
    (∃ count rest, text = List.replicate (count + 1) ' ' ++ rest ∧ rest.head? ≠ some ' ') ∨
      ∃ word rest, text = word ++ rest ∧ word ≠ [] ∧ (∀ c ∈ word, IsSolid c) ∧
        ∀ c ∈ rest.head?, c = ' ' := by
  obtain ⟨c, more, rfl⟩ := List.exists_cons_of_ne_nil nonempty
  by_cases space : c = ' '
  · subst space
    have split := @List.takeWhile_append_dropWhile _ (· = ' ') more
    have blanks : more.takeWhile (· = ' ') =
        List.replicate (more.takeWhile (· = ' ')).length ' ' :=
      List.eq_replicate_of_mem fun c member => by simpa using List.mem_takeWhile_imp member
    refine .inl ⟨(more.takeWhile (· = ' ')).length, more.dropWhile (· = ' '), ?_, ?_⟩
    · rw [List.replicate_succ, List.cons_append, ← blanks, split]
    · intro head
      have next := List.head?_dropWhile_not (· = ' ') more
      rw [head] at next
      simp at next
  · have split := @List.takeWhile_append_dropWhile _ (· ≠ ' ') (c :: more)
    refine .inr ⟨_, _, split.symm, by simp [space], ?_, ?_⟩
    · intro d member
      exact ⟨printable d ((List.takeWhile_sublist _).mem member), by
        simpa using List.mem_takeWhile_imp member⟩
    · intro d head
      have next := List.head?_dropWhile_not (· ≠ ' ') (c :: more)
      rw [Option.mem_def.mp head] at next
      simpa using next

theorem run_induction {P : List Char → Prop} (nil : P [])
    (spaces : ∀ count text, (∀ c ∈ text, IsPrintable c) → text.head? ≠ some ' ' → P text →
      P (List.replicate (count + 1) ' ' ++ text))
    (word : ∀ word text, (∀ c ∈ text, IsPrintable c) → word ≠ [] → (∀ c ∈ word, IsSolid c) →
      (∀ c ∈ text.head?, c = ' ') → P text → P (word ++ text))
    (text : List Char) (printable : ∀ c ∈ text, IsPrintable c) : P text := by
  induction size : text.length using Nat.strongRecOn generalizing text with
  | ind length inductionHypothesis =>
      by_cases nonempty : text = []
      · rw [nonempty]
        exact nil
      · obtain ⟨count, rest, rfl, head⟩ | ⟨front, rest, rfl, some, solid, head⟩ :=
          exists_run printable nonempty
        · have later : ∀ c ∈ rest, IsPrintable c := fun c member =>
            printable c (List.mem_append_right _ member)
          refine spaces count rest later head (inductionHypothesis rest.length ?_ rest later rfl)
          simp only [List.length_append, List.length_replicate] at size
          omega
        · have later : ∀ c ∈ rest, IsPrintable c := fun c member =>
            printable c (List.mem_append_right _ member)
          refine word front rest later some solid head
            (inductionHypothesis rest.length ?_ rest later rfl)
          have positive := List.length_pos_iff.mpr some
          simp only [List.length_append] at size
          omega

namespace Page

def runKind (c : Char) : Nat := if c = ' ' then 0 else if isBreak c then 1 else 2

theorem runs_cons (c : Char) (rest : List Char) :
    runs (c :: rest) =
      match runs rest with
      | (d :: run) :: more =>
        if runKind c = runKind d then (c :: d :: run) :: more else [c] :: (d :: run) :: more
      | other => [c] :: other := rfl

theorem runKind_of_solid {c : Char} (solid : IsSolid c) : runKind c = 2 := by
  simp [runKind, solid.ne_space, solid.printable.isBreak_eq]

theorem exists_runs_cons (c : Char) (rest : List Char) :
    ∃ run more, runs (c :: rest) = (c :: run) :: more := by
  rw [runs_cons]
  split
  next d run more _ =>
    split
    · exact ⟨_, _, rfl⟩
    · exact ⟨_, _, rfl⟩
  · exact ⟨_, _, rfl⟩

theorem runs_append {run rest : List Char} {kind : Nat} (nonempty : run ≠ [])
    (alike : ∀ c ∈ run, runKind c = kind) (apart : ∀ c ∈ rest.head?, runKind c ≠ kind) :
    runs (run ++ rest) = run :: runs rest := by
  induction run with
  | nil => exact absurd rfl nonempty
  | cons c more inductionHypothesis =>
      have here := alike c List.mem_cons_self
      cases more with
      | nil =>
          cases rest with
          | nil => rfl
          | cons d rest =>
              obtain ⟨run, others, later⟩ := exists_runs_cons d rest
              have differs : runKind c ≠ runKind d := fun same =>
                apart d rfl (same.symm.trans here)
              rw [List.singleton_append, runs_cons, later]
              exact if_neg differs
      | cons d more =>
          have next := alike d (by simp)
          rw [List.cons_append, runs_cons, inductionHypothesis (by simp) fun e member =>
            alike e (List.mem_cons_of_mem _ member)]
          exact if_pos (here.trans next.symm)

theorem runs_spaces (count : Nat) {text : List Char} (printable : ∀ c ∈ text, IsPrintable c)
    (head : text.head? ≠ some ' ') :
    runs (List.replicate (count + 1) ' ' ++ text) =
      List.replicate (count + 1) ' ' :: runs text := by
  refine @runs_append _ _ 0 (by simp) (fun c member => ?_) fun c first => ?_
  · rw [List.eq_of_mem_replicate member]
    rfl
  · have solid : IsSolid c :=
      ⟨printable c (List.mem_of_mem_head? first), fun space => head (space ▸ first)⟩
    rw [runKind_of_solid solid]
    decide

theorem runs_word {word text : List Char} (nonempty : word ≠ []) (solid : ∀ c ∈ word, IsSolid c)
    (head : ∀ c ∈ text.head?, c = ' ') : runs (word ++ text) = word :: runs text := by
  refine runs_append nonempty (fun c member => runKind_of_solid (solid c member)) fun c first => ?_
  rw [head c first]
  decide

theorem toIndent_of_long {p : Page} (long : bestWidth < p.column) :
    (p.toIndent 2).written = ' ' :: ' ' :: '\n' :: p.written := by
  have beyond : 2 < p.column := Nat.lt_trans (by decide) long
  simp [toIndent, beyond, lineBreak, put, List.replicate]

end Page

/-! ## Between quotes -/

inductive QuotedForm : List Char → List Char → Prop
  | nil : QuotedForm [] []
  | char {c : Char} {text written : List Char} : IsSolid c → c ≠ '\'' → QuotedForm text written →
      QuotedForm (c :: text) (c :: written)
  | quote {text written : List Char} : QuotedForm text written →
      QuotedForm ('\'' :: text) ('\'' :: '\'' :: written)
  | spaces {text written : List Char} (count : Nat) : text.head? ≠ some ' ' →
      QuotedForm text written →
      QuotedForm (List.replicate (count + 1) ' ' ++ text)
      (List.replicate (count + 1) ' ' ++ written)
  | fold {text written : List Char} : text ≠ [] → text.head? ≠ some ' ' → QuotedForm text written →
      QuotedForm (' ' :: text) ('\n' :: ' ' :: ' ' :: written)

theorem QuotedForm.word {word text written : List Char} (solid : ∀ c ∈ word, IsSolid c)
    (form : QuotedForm text written) :
    QuotedForm (word ++ text) (Page.doubleQuotes word ++ written) := by
  induction word with
  | nil => exact form
  | cons c more inductionHypothesis =>
      have later := inductionHypothesis fun d member => solid d (List.mem_cons_of_mem _ member)
      by_cases quote : c = '\''
      · subst quote
        exact .quote later
      · have same : Page.doubleQuotes (c :: more) = c :: Page.doubleQuotes more := by
          simp [Page.doubleQuotes, quote]
        rw [same]
        exact .char (solid c List.mem_cons_self) quote later

namespace Page

theorem doubleQuotes_spaces (count : Nat) :
    doubleQuotes (List.replicate count ' ') = List.replicate count ' ' := by
  induction count with
  | zero => rfl
  | succ count inductionHypothesis =>
      rw [List.replicate_succ]
      exact congrArg (' ' :: ·) inductionHypothesis

theorem singleRuns_cons_put {p : Page} {first : Bool} {run : List Char} {rest : List (List Char)}
    (kept : (run = [' '] && bestWidth < p.column && !first && !rest.isEmpty) = false)
    (noBreak : run.any isBreak = false) :
    singleRuns 2 true first p (run :: rest) =
      singleRuns 2 true false (p.put (doubleQuotes run)) rest := by
  rw [singleRuns]
  simp only [Bool.and_true, kept, noBreak, Bool.false_eq_true, if_false]

theorem written_singleRuns {text : List Char} (printable : ∀ c ∈ text, IsPrintable c) (first : Bool)
    (p : Page) :
    ∃ written, QuotedForm text written ∧
      (singleRuns 2 true first p (runs text)).written = written.reverse ++ p.written := by
  revert first p
  refine run_induction (P := fun text => ∀ first p, ∃ written, QuotedForm text written ∧
    (singleRuns 2 true first p (runs text)).written = written.reverse ++ p.written) ?_ ?_ ?_
    text printable
  · intro first p
    exact ⟨[], .nil, rfl⟩
  · intro count text printable head inductionHypothesis first p
    rw [runs_spaces count printable head]
    have noBreak : (List.replicate (count + 1) ' ').any isBreak = false := by
      rw [List.any_replicate]
      rfl
    cases folded : (List.replicate (count + 1) ' ' = [' '] && bestWidth < p.column && !first
        && !(runs text).isEmpty) with
    | false =>
        obtain ⟨written, form, same⟩ :=
          inductionHypothesis false (p.put (doubleQuotes (List.replicate (count + 1) ' ')))
        refine ⟨_, .spaces count head form, ?_⟩
        rw [singleRuns_cons_put folded noBreak, same, doubleQuotes_spaces, put, List.reverse_append,
          List.append_assoc]
    | true =>
        simp only [Bool.and_eq_true, decide_eq_true_eq, Bool.not_eq_true',
          List.isEmpty_eq_false_iff]
          at folded
        obtain ⟨⟨⟨alone, long⟩, inside⟩, more⟩ := folded
        obtain ⟨written, form, same⟩ := inductionHypothesis false (p.toIndent 2)
        have text_ne : text ≠ [] := by
          rintro rfl
          exact more rfl
        refine ⟨'\n' :: ' ' :: ' ' :: written, ?_, ?_⟩
        · rw [alone]
          exact .fold text_ne head form
        · have condition : (List.replicate (count + 1) ' ' = [' '] && bestWidth < p.column && true
              && !first && !(runs text).isEmpty) = true := by
            simp [alone, long, inside, more]
          rw [singleRuns, if_pos condition, same, toIndent_of_long long]
          simp
  · intro word text printable nonempty solid head inductionHypothesis first p
    rw [runs_word nonempty solid head]
    have noBreak : word.any isBreak = false := by
      rw [List.any_eq_false]
      intro c member
      rw [(solid c member).printable.isBreak_eq]
      decide
    obtain ⟨written, form, same⟩ := inductionHypothesis false (p.put (doubleQuotes word))
    refine ⟨_, form.word solid, ?_⟩
    rw [singleRuns_cons_put (by simp [ne_space_of_solid solid]) noBreak, same, put,
      List.reverse_append, List.append_assoc]

theorem written_single {text : List Char} (printable : ∀ c ∈ text, IsPrintable c) {p : Page}
    (joined : p.blank = false) :
    ∃ written, QuotedForm text written ∧
      (p.single 2 true text).written = (' ' :: '\'' :: written ++ ['\'']).reverse ++ p.written ∧
      (p.single 2 true text).blank = false ∧ (p.single 2 true text).fresh = false := by
  obtain ⟨written, form, same⟩ :=
    written_singleRuns printable true (p.indicator ['\''] true false false)
  refine ⟨written, form, ?_, rfl, by simp [single, indicator]⟩
  rw [single]
  generalize singleRuns 2 true true (p.indicator ['\''] true false false) (runs text) =
    after at same ⊢
  simp [indicator, put, same, joined]

end Page

/-! ## Plain scalars -/

structure IsWord (word : List Char) : Prop where
  ne_nil : word ≠ []
  solid : ∀ c ∈ word, IsSolid c
  no_colon : word.getLast? ≠ some ':'

/-- What follows a word of a plain scalar, and how it may be written. -/
inductive PlainTail : List Char → List Char → Prop
  | nil : PlainTail [] []
  | spaces {word text written : List Char} (count : Nat) : IsWord word → word.head? ≠ some '#' →
      PlainTail text written →
      PlainTail (List.replicate (count + 1) ' ' ++ (word ++ text))
        (List.replicate (count + 1) ' ' ++ (word ++ written))
  | fold {word text written : List Char} : IsWord word → word.head? ≠ some '#' →
      PlainTail text written →
      PlainTail (' ' :: (word ++ text)) ('\n' :: ' ' :: ' ' :: (word ++ written))

/-- No colon before a space or at the end, and no number sign after a space. -/
structure IsClear (text : List Char) : Prop where
  no_comment : ¬ [' ', '#'] <:+: text
  no_key : ¬ [':', ' '] <:+: text
  no_colon : text.getLast? ≠ some ':'

theorem IsClear.of_append {front rest : List Char} (clear : IsClear (front ++ rest)) :
    IsClear rest where
  no_comment := fun occurs => clear.no_comment
    (occurs.trans (List.suffix_append front rest).isInfix)
  no_key := fun occurs => clear.no_key (occurs.trans (List.suffix_append front rest).isInfix)
  no_colon := fun last => clear.no_colon (by rw [List.getLast?_append, last]; rfl)

theorem IsClear.isWord {word rest : List Char} (clear : IsClear (word ++ rest))
    (nonempty : word ≠ [])
    (solid : ∀ c ∈ word, IsSolid c) (head : ∀ c ∈ rest.head?, c = ' ') : IsWord word where
  ne_nil := nonempty
  solid := solid
  no_colon := by
    intro colon
    obtain ⟨before, rfl⟩ := List.getLast?_eq_some_iff.mp colon
    cases rest with
    | nil =>
        apply clear.no_colon
        simp
    | cons c rest =>
        rw [head c rfl] at clear
        exact clear.no_key ⟨before, rest, by simp⟩

theorem exists_trail {tail : List Char} (printable : ∀ c ∈ tail, IsPrintable c)
    (clear : IsClear tail)
    (last : tail.getLast? ≠ some ' ') (head : tail.head? = some ' ') :
    ∃ count word rest, tail = List.replicate (count + 1) ' ' ++ (word ++ rest) ∧ IsWord word ∧
      word.head? ≠ some '#' ∧ ∀ c ∈ rest.head?, c = ' ' := by
  have nonempty : tail ≠ [] := by
    rintro rfl
    cases head
  obtain ⟨count, text, rfl, noSpace⟩ | ⟨word, rest, rfl, some, solid, -⟩ :=
    exists_run printable nonempty
  · have text_ne : text ≠ [] := by
      rintro rfl
      apply last
      simp [List.getLast?_replicate]
    obtain ⟨count', rest, rfl, -⟩ | ⟨word, rest, rfl, some, solid, rest_head⟩ :=
      exists_run (fun c member => printable c (List.mem_append_right _ member)) text_ne
    · exact absurd rfl noSpace
    · refine ⟨count, word, rest, rfl, clear.of_append.isWord some solid rest_head, ?_, rest_head⟩
      intro hash
      obtain ⟨more, rfl⟩ := List.head?_eq_some_iff.mp hash
      apply clear.no_comment
      refine ⟨List.replicate count ' ', more ++ rest, ?_⟩
      rw [List.replicate_succ', List.append_assoc, List.append_assoc]
      rfl
  · obtain ⟨c, more, rfl⟩ := List.exists_cons_of_ne_nil some
    cases head
    exact absurd rfl (solid ' ' List.mem_cons_self).ne_space

namespace Page

/-- Writing on after a word keeps the words, and may fold a space before one. -/
theorem written_plainRuns {tail : List Char} (printable : ∀ c ∈ tail, IsPrintable c)
    (clear : IsClear tail) (last : tail.getLast? ≠ some ' ') (head : ∀ c ∈ tail.head?, c = ' ')
    {p : Page} (joined : p.blank = false) (begun : p.fresh = false) :
    ∃ written, PlainTail tail written ∧
      (plainRuns 2 true p (runs tail)).written = written.reverse ++ p.written ∧
      (plainRuns 2 true p (runs tail)).blank = false ∧
      (plainRuns 2 true p (runs tail)).fresh = false := by
  cases tail with
  | nil => exact ⟨[], .nil, rfl, joined, begun⟩
  | cons c more =>
      obtain ⟨count, word, rest, split, isWord, noHash, rest_head⟩ :=
        exists_trail printable clear last (by rw [← head c rfl]; rfl)
      rw [split] at printable clear last ⊢
      have printableWord : ∀ c ∈ word ++ rest, IsPrintable c := fun c member =>
        printable c (List.mem_append_right _ member)
      have printableRest : ∀ c ∈ rest, IsPrintable c := fun c member =>
        printableWord c (List.mem_append_right _ member)
      have wordHead : (word ++ rest).head? ≠ some ' ' := by
        obtain ⟨d, more, rfl⟩ := List.exists_cons_of_ne_nil isWord.ne_nil
        intro space
        cases space
        exact (isWord.solid ' ' List.mem_cons_self).ne_space rfl
      have lastRest : rest.getLast? ≠ some ' ' := by
        intro space
        apply last
        rw [← List.append_assoc, List.getLast?_append, space]
        rfl
      have clearRest : IsClear rest := clear.of_append.of_append
      have shorter : rest.length < (c :: more).length := by
        have whole := congrArg List.length split
        have positive := List.length_pos_iff.mpr isWord.ne_nil
        simp only [List.length_append, List.length_replicate] at whole
        omega
      rw [runs_spaces count printableWord wordHead,
        runs_word isWord.ne_nil isWord.solid rest_head, plainRuns, plainRuns]
      simp only [ne_space_of_solid isWord.solid, decide_false, Bool.false_and, Bool.false_eq_true,
        if_false]
      by_cases folded : (List.replicate (count + 1) ' ' = [' '] &&
        bestWidth < p.column && true) = true
      · rw [if_pos folded]
        simp only [Bool.and_true, Bool.and_eq_true, decide_eq_true_eq] at folded
        obtain ⟨alone, long⟩ := folded
        obtain ⟨written, form, same, blank, fresh⟩ :=
          written_plainRuns printableRest clearRest lastRest
          rest_head (p := ({ p.toIndent 2 with blank := false, fresh := false } : Page).put word)
            rfl rfl
        refine ⟨'\n' :: ' ' :: ' ' :: (word ++ written), ?_, ?_, blank, fresh⟩
        · rw [alone, List.singleton_append]
          exact .fold isWord noHash form
        · rw [same, put, toIndent_of_long long]
          simp
      · rw [if_neg folded]
        obtain ⟨written, form, same, blank, fresh⟩ :=
          written_plainRuns printableRest clearRest lastRest
          rest_head (p := (p.put (List.replicate (count + 1) ' ')).put word) joined begun
        refine ⟨_, .spaces count isWord noHash form, ?_, blank, fresh⟩
        rw [same, put, put]
        simp
termination_by tail.length

end Page

/-! ## The choice of a style -/

structure OpensPlain (word : List Char) : Prop extends IsWord word where
  opens : ∀ c more, word = c :: more → startsOther c more.isEmpty = false

inductive PlainForm : List Char → List Char → Prop
  | intro {word tail written : List Char} : OpensPlain word → PlainTail tail written →
      PlainForm (word ++ tail) (word ++ written)

theorem isClear_of_hidesOther {before : Char} {text : List Char} (earlier : IsPrintable before)
    (printable : ∀ c ∈ text, IsPrintable c) (clear : hidesOther before text = false) :
    ¬ [' ', '#'] <:+: before :: text ∧ ¬ [':', ' '] <:+: text ∧ text.getLast? ≠ some ':' := by
  induction text generalizing before with
  | nil =>
      refine ⟨fun occurs => ?_, fun occurs => ?_, by simp⟩
      · exact absurd occurs.length_le (by simp)
      · exact absurd occurs.length_le (by simp)
  | cons c rest inductionHypothesis =>
      have here := printable c List.mem_cons_self
      have later : ∀ d ∈ rest, IsPrintable d := fun d member =>
        printable d (List.mem_cons_of_mem _ member)
      simp only [hidesOther, Bool.or_eq_false_iff, Bool.and_eq_false_iff, decide_eq_false_iff_not]
        at clear
      obtain ⟨⟨colon, hash⟩, further⟩ := clear
      obtain ⟨comment, key, last⟩ := inductionHypothesis here later further
      refine ⟨?_, ?_, ?_⟩
      · rw [List.infix_cons_iff, not_or]
        refine ⟨?_, comment⟩
        rintro ⟨more, same⟩
        cases same
        rcases hash with other | solid
        · exact other rfl
        · cases solid
      · rw [List.infix_cons_iff, not_or]
        refine ⟨?_, key⟩
        rintro ⟨more, same⟩
        cases same
        rcases colon with other | solid
        · exact other rfl
        · cases solid
      · cases rest with
        | nil =>
            intro same
            cases same
            rcases colon with other | solid
            · exact other rfl
            · cases solid
        | cons d more => simpa using last

theorem exists_opening {text : List Char} (printable : ∀ c ∈ text, IsPrintable c)
    (nonempty : text ≠ []) (allowed : (analyse text).plainAllowed = true) :
    ∃ word tail, text = word ++ tail ∧ OpensPlain word ∧ IsClear tail ∧ tail.getLast? ≠ some ' ' ∧
      ∀ c ∈ tail.head?, c = ' ' := by
  obtain ⟨c, rest, rfl⟩ := List.exists_cons_of_ne_nil nonempty
  have later : ∀ d ∈ rest, IsPrintable d := fun d member =>
    printable d (List.mem_cons_of_mem _ member)
  simp only [analyse, Bool.not_eq_true', Bool.or_eq_false_iff] at allowed
  obtain ⟨⟨⟨⟨⟨⟨⟨⟨⟨firstSpace, -⟩, lastSpace, -⟩, -⟩, -⟩, -⟩, -⟩, -⟩, opens⟩, hides⟩ := allowed
  obtain ⟨comment, key, last⟩ := isClear_of_hidesOther (printable c List.mem_cons_self) later hides
  have first : c ≠ ' ' := by simpa using firstSpace
  have ending : (c :: rest).getLast? ≠ some ' ' := by
    intro space
    rw [space] at lastSpace
    simp at lastSpace
  have opensOnly (d : Char)
      (apart : ∀ blank, startsOther d blank = (blank || startsOther d blank)) :
      c = d → isBlankOrEnd (rest.headD endMark) = false := by
    rintro rfl
    rw [apart] at opens
    exact (Bool.or_eq_false_iff.mp opens).1
  have colon := opensOnly ':' (by decide)
  have clear : IsClear (c :: rest) := by
    refine ⟨comment, ?_, ?_⟩
    · rw [List.infix_cons_iff, not_or]
      refine ⟨?_, key⟩
      rintro ⟨more, same⟩
      cases same
      cases colon rfl
    · cases rest with
      | nil =>
          intro same
          cases same
          cases colon rfl
      | cons d more => simpa using last
  obtain ⟨count, tail, same, -⟩ | ⟨word, tail, same, some, solid, head⟩ :=
    exists_run printable (List.cons_ne_nil c rest)
  · rw [List.replicate_succ] at same
    cases same
    exact absurd rfl first
  · rw [same] at clear ending
    refine ⟨word, tail, same, ⟨clear.isWord some solid head, ?_⟩, clear.of_append, ?_, head⟩
    · rintro d more rfl
      cases same
      have next : isBlankOrEnd ((more ++ tail).headD endMark) = more.isEmpty := by
        cases more with
        | nil =>
            cases tail with
            | nil => rfl
            | cons e tail =>
                rw [head e rfl]
                rfl
        | cons e more => exact (solid e (by simp)).isBlankOrEnd_eq
      rw [← next]
      exact opens
    · intro space
      apply ending
      rw [List.getLast?_append, space]
      rfl

theorem isOrdinary_of_printable {c : Char} (printable : IsPrintable c) : isOrdinary c = true := by
  simp [isOrdinary, printable.1, printable.2]

theorem hasPair_eq_false {first second : Char → Bool} {text : List Char}
    (none : (∀ c ∈ text, first c = false) ∨ ∀ c ∈ text, second c = false) :
    hasPair first second text = false := by
  fun_induction hasPair first second text with
  | case1 a b rest inductionHypothesis =>
      rw [inductionHypothesis (none.imp (fun all c member => all c (List.mem_cons_of_mem _ member))
        fun all c member => all c (List.mem_cons_of_mem _ member)), Bool.or_false]
      rcases none with all | all
      · rw [all a List.mem_cons_self, Bool.false_and]
      · rw [all b (by simp), Bool.and_false]
  | case2 => rfl

theorem chooseStyle_of_printable {text : List Char} (printable : ∀ c ∈ text, IsPrintable c)
    (looksRight : Bool) :
    chooseStyle looksRight false false text =
      if looksRight && (analyse text).plainAllowed then .plain else .single := by
  have single : (analyse text).singleAllowed = true := by
    cases text with
    | nil => rfl
    | cons c rest =>
        have ordinary : (c :: rest).all isOrdinary = true :=
          List.all_eq_true.mpr fun d member => isOrdinary_of_printable (printable d member)
        have breaks : ∀ d ∈ c :: rest, isBreak d = false := fun d member =>
          (printable d member).isBreak_eq
        simp only [analyse, ordinary, hasPair_eq_false (.inr breaks),
          hasPair_eq_false (.inl breaks)]
        rfl
  rw [chooseStyle]
  simp [single]

/-- A text, whether it is written plain, and how it may be written. -/
inductive ScalarForm : List Char → Bool → List Char → Prop
  | plain {text written : List Char} : PlainForm text written → ScalarForm text true written
  | quoted {text written : List Char} : QuotedForm text written →
      ScalarForm text false ('\'' :: (written ++ ['\'']))

theorem Page.written_plain {text : List Char} (printable : ∀ c ∈ text, IsPrintable c)
    (nonempty : text ≠ []) (allowed : (analyse text).plainAllowed = true) {p : Page}
    (joined : p.blank = false) :
    ∃ written, PlainForm text written ∧
      (p.plain 2 true text).written = (' ' :: written).reverse ++ p.written ∧
      (p.plain 2 true text).blank = false ∧ (p.plain 2 true text).fresh = false := by
  obtain ⟨word, tail, rfl, opens, clear, last, head⟩ := exists_opening printable nonempty allowed
  obtain ⟨written, form, same, blank, fresh⟩ := written_plainRuns
    (fun c member => printable c (List.mem_append_right _ member)) clear last head
    (p := ({ p.put [' '] with blank := false, fresh := false } : Page).put word) rfl rfl
  have start : p.plain 2 true (word ++ tail) = plainRuns 2 true
      (({ p.put [' '] with blank := false, fresh := false } : Page).put word) (runs tail) := by
    have some : (word ++ tail).isEmpty = false := by simp [opens.ne_nil]
    rw [plain, some, runs_word opens.ne_nil opens.solid head, joined]
    simp only [Bool.false_eq_true, if_false]
    rw [plainRuns]
    simp [ne_space_of_solid opens.solid]
  rw [start]
  refine ⟨word ++ written, .intro opens form, ?_, blank, fresh⟩
  rw [same]
  simp [put]

end Yaml

end WarningSweep
