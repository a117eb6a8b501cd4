import Mathlib.Data.List.TakeWhile
import WarningSweep.Sweep
import WarningSweep.Text.CharClass

/-!
# Which contents need no warning

A content needs no warning exactly when it begins like a literal and each percent sign in it,
wherever it stands, is followed by flags and a conversion that has one size.  A literal is told by
how it begins, so a name that only begins with the word for literals is taken for that word.
-/

namespace WarningSweep

def Glyph.isWord : Glyph → Bool
  | .char c => isWordChar c
  | .byte _ => false

namespace Text

/-- `run` is the longest front of the text whose glyphs are all of one kind. -/
structure Spans (kind : Glyph → Prop) (t run rest : Text) : Prop where
  cut : t = run ++ rest
  inside : ∀ g ∈ run, kind g
  outside : ∀ g ∈ rest.head?, ¬ kind g

theorem spans_iff {kind : Glyph → Bool} {t run rest : Text} :
    Spans (fun g => kind g = true) t run rest ↔
      run = t.takeWhile kind ∧ rest = t.dropWhile kind := by
  constructor
  · rintro ⟨rfl, inside, outside⟩
    rw [List.takeWhile_append_of_pos inside, List.dropWhile_append_of_pos inside]
    cases rest with
    | nil => simp
    | cons g rest =>
        have stops : ¬ kind g = true := outside g rfl
        rw [List.takeWhile_cons_of_neg stops, List.dropWhile_cons_of_neg stops]
        simp
  · rintro ⟨rfl, rfl⟩
    refine ⟨List.takeWhile_append_dropWhile.symm, fun g member => List.mem_takeWhile_imp member, ?_⟩
    intro g first
    have stops := List.head?_dropWhile_not kind t
    rw [Option.mem_def.mp first] at stops
    simpa using stops

theorem Spans.trimLeft_eq {content blanks rest : Text}
    (spans : Spans (fun g => g.isBlank = true) content blanks rest) : content.trimLeft = rest :=
  (spans_iff.mp spans).2.symm

/-- Where a run ends, a text of the same kind that begins the whole begins the run. -/
theorem Spans.prefix_iff {kind : Glyph → Prop} {t run rest : Text} (spans : Spans kind t run rest)
    {front : Text} (alike : ∀ g ∈ front, kind g) : front <+: t ↔ front <+: run := by
  rw [spans.cut]
  constructor
  · intro begins
    rcases List.prefix_or_prefix_of_prefix begins (List.prefix_append run rest) with
      inside | ⟨more, rfl⟩
    · exact inside
    · rw [List.prefix_append_right_inj] at begins
      rcases more with _ | ⟨g, more⟩
      · simp
      · obtain ⟨after, rfl⟩ := begins
        exact absurd (alike g (by simp)) (spans.outside g rfl)
  · exact fun begins => begins.trans (List.prefix_append _ _)

end Text

namespace LeafRule

open Text

/-- A conversion of the content is none of the safe ones: the first glyph after a percent sign and
all the flags that follow it. -/
def HasUnsafeConversion (content : Text) : Prop :=
  ∃ front rest flags conversion back, content = front ++ .char '%' :: rest ∧
    Spans (· ∈ ofString "#0-+ ") rest flags (conversion :: back) ∧
    conversion ∉ ofString "@sScCpl"

theorem isFlag_iff {g : Glyph} : isFlag g = true ↔ g ∈ ofString "#0-+ " := by
  rw [isFlag, List.contains_iff_mem]

theorem isSafeConversion_iff {g : Glyph} :
    isSafeConversion g = true ↔ g ∈ ofString "@sScCpl" := by
  rw [isSafeConversion, List.contains_iff_mem]

theorem spans_flags_iff {rest flags after : Text} :
    Spans (· ∈ ofString "#0-+ ") rest flags after ↔
      flags = rest.takeWhile isFlag ∧ after = rest.dropWhile isFlag := by
  rw [← spans_iff]
  simp only [isFlag_iff]

/-- The search meets every percent sign: the first one, or those of the rest. -/
theorem unsafeConversion?_isSome_cons {g : Glyph} {content : Text} :
    (unsafeConversion? (g :: content)).isSome ↔
      (g = .char '%' ∧ ∃ conversion back, content.dropWhile isFlag = conversion :: back ∧
        isSafeConversion conversion = false) ∨ (unsafeConversion? content).isSome := by
  rw [unsafeConversion?]
  by_cases percent : g = .char '%'
  · rw [if_pos percent]
    cases after : content.dropWhile isFlag with
    | nil => simp
    | cons conversion back =>
        cases safe : isSafeConversion conversion <;> simp [percent, safe]
  · simp [percent]

theorem unsafeConversion?_isSome_iff {content : Text} :
    (unsafeConversion? content).isSome ↔ HasUnsafeConversion content := by
  induction content with
  | nil => simp [unsafeConversion?, HasUnsafeConversion]
  | cons g content inductionHypothesis =>
      rw [unsafeConversion?_isSome_cons, inductionHypothesis]
      constructor
      · rintro (⟨rfl, conversion, back, after, harmful⟩ |
          ⟨front, rest, flags, conversion, back, rfl, spans, harmful⟩)
        · refine ⟨[], content, content.takeWhile isFlag, conversion, back, rfl,
            spans_flags_iff.mpr ⟨rfl, after.symm⟩, ?_⟩
          rw [← isSafeConversion_iff, harmful]
          simp
        · exact ⟨g :: front, rest, flags, conversion, back, rfl, spans, harmful⟩
      · rintro ⟨front, rest, flags, conversion, back, cut, spans, harmful⟩
        rcases front with _ | ⟨first, front⟩
        · obtain ⟨rfl, rfl⟩ := List.cons.inj cut
          refine .inl ⟨rfl, conversion, back, (spans_flags_iff.mp spans).2.symm, ?_⟩
          rw [← isSafeConversion_iff] at harmful
          simpa using harmful
        · obtain ⟨rfl, rfl⟩ := List.cons.inj cut
          exact .inr ⟨front, rest, flags, conversion, back, rfl, spans, harmful⟩

theorem isLiteral_iff {rule : LeafRule} {content : Text} :
    rule.isLiteral content = true ↔
      ofString "\"" <+: content.trimLeft ∨ ofString "@\"" <+: content.trimLeft ∨
        ofString rule.literalWord <+: content.trimLeft := by
  simp [isLiteral, literalHeads]

theorem needsWarning_eq_true_iff {rule : LeafRule} {content : Text} :
    rule.needsWarning content = true ↔
      rule.isLiteral content = false ∨ HasUnsafeConversion content := by
  rw [needsWarning, Bool.or_eq_true, unsafeConversion?_isSome_iff, Bool.not_eq_true']

/-- After its blanks the content begins with this word, which goes as far as its letters do. -/
def BeginsWithWord (content word : Text) : Prop :=
  word ≠ [] ∧ ∃ blanks rest after, Spans (fun g => g.isBlank = true) content blanks rest ∧
    Spans (fun g => g.isWord = true) rest word after

theorem BeginsWithWord.exists_not_blank {content word : Text}
    (begins : BeginsWithWord content word) : ∃ g ∈ content, g.isBlank = false := by
  obtain ⟨nonempty, blanks, rest, after, blankSpans, spans⟩ := begins
  obtain ⟨g, others, rfl⟩ := List.exists_cons_of_ne_nil nonempty
  have first : g ∈ rest.head? := by
    rw [spans.cut]
    rfl
  refine ⟨g, ?_, by simpa using blankSpans.outside g first⟩
  rw [blankSpans.cut]
  exact List.mem_append_right _ (List.mem_of_mem_head? first)

theorem not_prefix_of_word {rest word after : Text}
    (spans : Spans (fun g => g.isWord = true) rest word after) (nonempty : word ≠ []) {g : Glyph}
    (outside : g.isWord = false) (front : Text) : ¬ g :: front <+: rest := by
  obtain ⟨first, others, rfl⟩ := List.exists_cons_of_ne_nil nonempty
  rw [spans.cut, List.cons_append, List.cons_prefix_cons]
  rintro ⟨rfl, -⟩
  have inside := spans.inside g List.mem_cons_self
  rw [outside] at inside
  cases inside

section

variable {rule : LeafRule} (worded : ∀ g ∈ ofString rule.literalWord, g.isWord = true)
  {content word : Text} (begins : BeginsWithWord content word)

include worded begins

/-- A content that begins with a word is taken for a literal when the word for literals begins that
word, and not only when it is that word. -/
theorem isLiteral_iff_of_word :
    rule.isLiteral content = true ↔ ofString rule.literalWord <+: word := by
  obtain ⟨nonempty, blanks, rest, after, blankSpans, spans⟩ := begins
  rw [isLiteral_iff, blankSpans.trimLeft_eq, spans.prefix_iff worded]
  have quote : ¬ ofString "\"" <+: rest :=
    not_prefix_of_word spans nonempty (by decide +kernel : (Glyph.char '"').isWord = false) []
  have atSign : ¬ ofString "@\"" <+: rest :=
    not_prefix_of_word spans nonempty (by decide +kernel : (Glyph.char '@').isWord = false) _
  simp [quote, atSign]

theorem needsWarning_iff_of_word :
    rule.needsWarning content = true ↔
      ¬ ofString rule.literalWord <+: word ∨ HasUnsafeConversion content := by
  rw [needsWarning_eq_true_iff, ← isLiteral_iff_of_word worded begins, Bool.not_eq_true]

end

/-- A content needs no warning exactly when it begins, after its blanks, with a quote, with an at
sign and a quote, or with the word for literals, and for each percent sign in it the first glyph
after all the flags that follow is missing or is a safe conversion. -/
theorem needsWarning_eq_false_iff (rule : LeafRule) (content : Text) :
    rule.needsWarning content = false ↔
      (∃ blanks rest, Spans (fun g => g.isBlank = true) content blanks rest ∧
        (ofString "\"" <+: rest ∨ ofString "@\"" <+: rest ∨ ofString rule.literalWord <+: rest)) ∧
      ∀ front rest flags after, content = front ++ .char '%' :: rest →
        Spans (· ∈ ofString "#0-+ ") rest flags after →
        ∀ g ∈ after.head?, g ∈ ofString "@sScCpl" := by
  rw [← Bool.not_eq_true, needsWarning_eq_true_iff, not_or, Bool.not_eq_false, isLiteral_iff]
  refine and_congr ?_ ?_
  · constructor
    · intro begins
      exact ⟨_, _, spans_iff.mpr ⟨rfl, rfl⟩, begins⟩
    · rintro ⟨blanks, rest, spans, begins⟩
      rw [spans.trimLeft_eq]
      exact begins
  · constructor
    · intro safe front rest flags after cut spans g first
      by_contra harmful
      obtain ⟨back, rfl⟩ := List.head?_eq_some_iff.mp first
      exact safe ⟨front, rest, flags, g, back, cut, spans, harmful⟩
    · rintro safe ⟨front, rest, flags, conversion, back, cut, spans, harmful⟩
      exact harmful (safe front rest flags _ cut spans conversion rfl)

/-- Flags up to the end of the content convert nothing, but a closing quote counts as a
conversion. -/
example : ({} : LeafRule).needsWarning "\"a %-" = false ∧
    ({} : LeafRule).needsWarning "\"a %-\"" = true := by decide

end LeafRule

end WarningSweep
