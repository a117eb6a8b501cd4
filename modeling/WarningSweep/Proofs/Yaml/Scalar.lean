import WarningSweep.Proofs.Yaml.Folding
import WarningSweep.Yaml.Token.Scalar

/-!
# Reading folded scalars

A scalar that was written plain or between single quotes, whether or not its spaces were folded, is
read back as the text it was written from.
-/

namespace WarningSweep.Yaml

namespace Cursor

variable {here : Cursor} {rest : List Char}

def past (here : Cursor) (count : Nat) (rest : List Char) : Cursor :=
  ⟨rest, here.index + count, here.line, here.column + count⟩

def below (here : Cursor) (rest : List Char) : Cursor := ⟨rest, here.index + 1, here.line + 1, 0⟩

@[simp]
theorem rest_past (count : Nat) : (here.past count rest).rest = rest := rfl

@[simp]
theorem column_past (count : Nat) : (here.past count rest).column = here.column + count := rfl

@[simp]
theorem rest_below : (here.below rest).rest = rest := rfl

@[simp]
theorem column_below : (here.below rest).column = 0 := rfl

theorem past_zero (start : here.rest = rest) : here.past 0 rest = here := by
  subst start
  rfl

theorem past_past (first second : Nat) (between : List Char) :
    (here.past first between).past second rest = here.past (first + second) rest := by
  simp [past, Nat.add_assoc]

theorem peek_eq {c : Char} (start : here.rest = c :: rest) : here.peek = c := by
  rw [peek, start]
  rfl

theorem next_of_printable {c : Char} (start : here.rest = c :: rest) (printable : IsPrintable c) :
    here.next = here.past 1 rest := by
  have mark := printable.ne (by decide : ¬ IsPrintable '\ufeff')
  rw [next, start]
  simp [printable.isBreak_eq, mark, past]

theorem next_of_break (start : here.rest = '\n' :: rest) : here.next = here.below rest := by
  rw [next, start]
  rfl

theorem skip_of_printable {run : List Char} (start : here.rest = run ++ rest)
    (printable : ∀ c ∈ run, IsPrintable c) : here.skip run.length = here.past run.length rest := by
  induction run generalizing here with
  | nil => exact (past_zero start).symm
  | cons c more inductionHypothesis =>
      have step := next_of_printable start (printable c List.mem_cons_self)
      rw [List.length_cons, skip, step, inductionHypothesis rfl fun d member =>
        printable d (List.mem_cons_of_mem _ member), past_past, Nat.add_comm]

theorem span_of_printable {p : Char → Bool} {run : List Char} (start : here.rest = run ++ rest)
    (printable : ∀ c ∈ run, IsPrintable c) (all : ∀ c ∈ run, p c = true)
    (stop : ∀ c ∈ rest.head?, p c = false) : here.span p = (run, here.past run.length rest) := by
  have front : here.rest.takeWhile p = run := by
    rw [start, List.takeWhile_append_of_pos all]
    cases rest with
    | nil => simp
    | cons c rest => simp [stop c rfl]
  rw [span, front]
  exact congrArg (run, ·) (skip_of_printable start printable)

theorem span_of_stop {p : Char → Bool} (stop : ∀ c ∈ here.rest.head?, p c = false) :
    here.span p = ([], here) := by
  have spanned := @span_of_printable here here.rest p [] rfl (by simp) (by simp) stop
  rwa [List.length_nil, past_zero rfl] at spanned

theorem span_of_spaces {p : Char → Bool} (count : Nat)
    (start : here.rest = List.replicate count ' ' ++ rest) (blank : p ' ' = true)
    (stop : ∀ c ∈ rest.head?, p c = false) :
    here.span p = (List.replicate count ' ', here.past count rest) := by
  have blanks : ∀ c ∈ List.replicate count ' ', c = ' ' := fun c => List.eq_of_mem_replicate
  have spanned := span_of_printable start (fun c member => by rw [blanks c member]; decide)
    (fun c member => by rw [blanks c member]; exact blank) stop
  rwa [List.length_replicate] at spanned

theorem lineBreak?_of_break (start : here.rest = '\n' :: rest) :
    here.lineBreak? = some ('\n', here.below rest) := by
  rw [lineBreak?, start]
  simp [next_of_break start]

theorem lineBreak?_of_printable {c : Char} (start : here.rest = c :: rest)
    (printable : IsPrintable c) :
    here.lineBreak? = none := by
  have feed := printable.ne (by decide : ¬ IsPrintable '\n')
  have nextLine := printable.ne (by decide : ¬ IsPrintable '\u0085')
  rw [lineBreak?, start]
  simp [feed, nextLine, printable.isBreak_eq]

theorem atSeparator_eq_false {c : Char} (start : here.rest = c :: rest) (dash : c ≠ '-')
    (dot : c ≠ '.') :
    here.atSeparator = false := by
  rw [atSeparator, atMark, atMark, start]
  simp [dash, dot]

end Cursor

/-! ## Between quotes -/

theorem QuotedForm.exists_head {text written : List Char} (form : QuotedForm text written)
    (head : text.head? ≠ some ' ') (rest : List Char) :
    ∃ c more, written ++ '\'' :: rest = c :: more ∧ IsSolid c := by
  have quote : IsSolid '\'' := ⟨by decide, by decide⟩
  cases form with
  | nil => exact ⟨_, _, rfl, quote⟩
  | char solid _ _ => exact ⟨_, _, rfl, solid⟩
  | quote _ => exact ⟨_, _, rfl, quote⟩
  | spaces count _ _ => exact absurd rfl head
  | fold _ _ _ => exact absurd rfl head

theorem quotedBreaks_of_fold {here : Cursor} {c : Char} {rest : List Char} (steps : Nat)
    (start : here.rest = ' ' :: ' ' :: c :: rest) (solid : IsSolid c) :
    quotedBreaks (steps + 1) here = .ok ([], here.past 2 (c :: rest)) := by
  have tab := solid.printable.ne (by decide : ¬ IsPrintable '\t')
  have skipped : here.skipWhile (fun c => c = ' ' || c = '\t') = here.past 2 (c :: rest) := by
    rw [Cursor.skipWhile, Cursor.span_of_spaces 2 start (by decide) (by simp [solid.ne_space, tab])]
  rw [quotedBreaks, Cursor.atSeparator_eq_false start (by decide) (by decide)]
  simp only [Bool.false_eq_true, if_false, skipped]
  rw [Cursor.lineBreak?_of_printable rfl solid.printable]

theorem quotedFrom_of_form {text written : List Char} (form : QuotedForm text written)
    {here : Cursor} {rest : List Char} {steps : Nat} (start : here.rest = written ++ '\'' :: rest)
    (closed : rest.head? ≠ some '\'') (enough : written.length < steps) :
    ∃ after, quotedFrom false steps here = .ok (text, after) ∧ after.rest = rest ∧
      here.line ≤ after.line := by
  induction form generalizing here steps with
  | nil =>
      obtain ⟨steps, rfl⟩ := Nat.exists_eq_succ_of_ne_zero (Nat.ne_of_gt enough)
      have alone : here.peekAt 1 ≠ '\'' := by
        rw [Cursor.peekAt, start]
        intro same
        cases rest with
        | nil => exact absurd same (by decide)
        | cons c more =>
            apply closed
            rw [← same]
            rfl
      refine ⟨here.past 1 rest, ?_, rfl, Nat.le_refl _⟩
      rw [quotedFrom, Cursor.peek_eq start, Cursor.next_of_printable start (by decide)]
      simp [alone, endMark]
  | @char c text written solid noQuote form inductionHypothesis =>
      obtain ⟨steps, rfl⟩ := Nat.exists_eq_succ_of_ne_zero (Nat.ne_of_gt (Nat.zero_lt_of_lt enough))
      have step := Cursor.next_of_printable start solid.printable
      obtain ⟨after, read, rest_eq, line_le⟩ := @inductionHypothesis (here.past 1 _) steps rfl
        (by simpa using enough)
      have notEnd := solid.printable.ne (by decide : ¬ IsPrintable endMark)
      refine ⟨after, ?_, rest_eq, line_le⟩
      rw [quotedFrom, Cursor.peek_eq start, step]
      simp [notEnd, noQuote, solid.isBlankOrEnd_eq, read, bind, Except.bind, pure, Except.pure]
  | @quote text written form inductionHypothesis =>
      obtain ⟨steps, rfl⟩ := Nat.exists_eq_succ_of_ne_zero (Nat.ne_of_gt (Nat.zero_lt_of_lt enough))
      have step := @Cursor.skip_of_printable here (written ++ '\'' :: rest) ['\'', '\'']
        start (by decide)
      obtain ⟨after, read, rest_eq, line_le⟩ := @inductionHypothesis (here.past 2 _) steps rfl
        (by simp only [List.length_cons] at enough; omega)
      have double : here.peekAt 1 = '\'' := by
        rw [Cursor.peekAt, start]
        rfl
      refine ⟨after, ?_, rest_eq, line_le⟩
      rw [List.length_cons, List.length_singleton] at step
      rw [quotedFrom, Cursor.peek_eq start]
      simp [double, step, endMark, read, bind, Except.bind, pure, Except.pure]
  | @spaces text written count head form inductionHypothesis =>
      obtain ⟨steps, rfl⟩ := Nat.exists_eq_succ_of_ne_zero (Nat.ne_of_gt (Nat.zero_lt_of_lt enough))
      rw [List.append_assoc] at start
      obtain ⟨c, more, ahead, solid⟩ := form.exists_head head rest
      have tab := solid.printable.ne (by decide : ¬ IsPrintable '\t')
      have notEnd := solid.printable.ne (by decide : ¬ IsPrintable endMark)
      have spanned := @Cursor.span_of_spaces here _ (fun c => c = ' ' || c = '\t') (count + 1) start
        (by decide) (by rw [ahead]; simp [solid.ne_space, tab])
      obtain ⟨after, read, rest_eq, line_le⟩ :=
        @inductionHypothesis (here.past (count + 1) _) steps rfl
        (by simp only [List.length_append, List.length_replicate] at enough; omega)
      have first : here.peek = ' ' := Cursor.peek_eq start
      refine ⟨after, ?_, rest_eq, line_le⟩
      rw [quotedFrom, first, spanned]
      have noBreak := @Cursor.lineBreak?_of_printable
        (here.past (count + 1) (written ++ '\'' :: rest))
        more c ahead solid.printable
      have next := @Cursor.peek_eq (here.past (count + 1) (written ++ '\'' :: rest)) more c ahead
      simp [noBreak, next, notEnd, (by decide : ' ' ≠ endMark), isBlankOrEnd, isSpaceOrEnd, read,
        bind, Except.bind, pure, Except.pure]
  | @fold text written nonempty head form inductionHypothesis =>
      obtain ⟨steps, rfl⟩ := Nat.exists_eq_succ_of_ne_zero (Nat.ne_of_gt (Nat.zero_lt_of_lt enough))
      obtain ⟨c, more, ahead, solid⟩ := form.exists_head head rest
      have first : here.peek = '\n' := Cursor.peek_eq start
      have spanned := @Cursor.span_of_stop here (fun c => c = ' ' || c = '\t') (by rw [start]; simp)
      have broken := Cursor.lineBreak?_of_break start
      have folded (steps : Nat) :=
        @quotedBreaks_of_fold (here.below (' ' :: ' ' :: written ++ '\'' :: rest)) c more steps
          (by simp [ahead]) solid
      obtain ⟨after, read, rest_eq, line_le⟩ := @inductionHypothesis
        ((here.below (' ' :: ' ' :: written ++ '\'' :: rest)).past 2 (c :: more)) steps ahead.symm
        (by simp only [List.length_cons] at enough; omega)
      refine ⟨after, ?_, rest_eq, Nat.le_trans (Nat.le_succ _) line_le⟩
      rw [quotedFrom, first, spanned]
      simp only [List.cons_append] at broken folded read ⊢
      simp [broken, folded, endMark, isBlankOrEnd, isSpaceOrEnd, isBreakOrEnd, isBreak, read,
        foldBreaks, bind, Except.bind, pure, Except.pure]

/-! ## Plain scalars -/

/-- What a line of a block starts with: no blank, no comment and no sign that separates
documents. -/
structure StartsLine (rest : List Char) : Prop where
  solid : ∀ c ∈ rest.head?, IsSolid c
  no_comment : rest.head? ≠ some '#'
  no_dashes : rest.take 3 ≠ ['-', '-', '-']
  no_dots : rest.take 3 ≠ ['.', '.', '.']

theorem plainRun_of_word {word rest : List Char} (isWord : IsWord word)
    (stop : ∀ c more, rest = c :: more → plainStopsAt false c (more.headD endMark) = true) :
    plainRun false (word ++ rest) = word := by
  obtain ⟨nonempty, solid, noColon⟩ := isWord
  induction word with
  | nil => exact absurd rfl nonempty
  | cons c more inductionHypothesis =>
      have here := (solid c List.mem_cons_self).isBlankOrEnd_eq
      cases more with
      | nil =>
          have last : c ≠ ':' := fun colon => noColon (by rw [colon]; rfl)
          have none : plainRun false rest = [] := by
            cases rest with
            | nil => rfl
            | cons d rest => rw [plainRun, if_pos (stop d rest rfl)]
          simp [plainRun, plainStopsAt, here, last, none]
      | cons d more =>
          have next := (solid d (by simp)).isBlankOrEnd_eq
          have later := inductionHypothesis (by simp)
            (fun e member => solid e (List.mem_cons_of_mem _ member)) (by simpa using noColon)
          rw [List.cons_append] at later
          rw [List.cons_append, List.cons_append, plainRun, later]
          simp [plainStopsAt, here, next]

theorem IsWord.peek_ne_hash {word rest : List Char} (isWord : IsWord word)
    (noHash : word.head? ≠ some '#') {here : Cursor} (start : here.rest = word ++ rest) :
    here.peek ≠ '#' := by
  obtain ⟨c, more, rfl⟩ := List.exists_cons_of_ne_nil isWord.ne_nil
  rw [Cursor.peek_eq start]
  exact fun hash => noHash (by rw [hash]; rfl)

section

variable {here : Cursor} {c : Char} {rest : List Char}

theorem plainGap_of_solid (start : here.rest = c :: rest) (solid : IsSolid c) :
    plainGap here = ⟨some [], false, here⟩ := by
  rw [plainGap, Cursor.span_of_stop (by rw [start]; simp [solid.ne_space])]
  simp only [Cursor.lineBreak?_of_printable start solid.printable]

theorem plainGap_of_spaces (count : Nat)
    (start : here.rest = List.replicate (count + 1) ' ' ++ c :: rest) (solid : IsSolid c) :
    ∃ after, plainGap here = ⟨some (List.replicate (count + 1) ' '), false, after⟩ ∧
      after.rest = c :: rest ∧ after.line = here.line ∧ 1 ≤ after.column := by
  have noBreak := @Cursor.lineBreak?_of_printable (here.past (count + 1) (c :: rest)) rest c rfl
    solid.printable
  refine ⟨here.past (count + 1) (c :: rest), ?_, rfl, rfl, Nat.le_add_left _ _⟩
  rw [plainGap, Cursor.span_of_spaces (count + 1) start (by decide) (by simp [solid.ne_space])]
  simp only [noBreak]

theorem plainBreaks_of_solid (steps : Nat) (start : here.rest = c :: rest) (solid : IsSolid c) :
    plainBreaks (steps + 1) here = (some [], here) := by
  rw [plainBreaks, Cursor.peek_eq start, if_neg solid.ne_space,
    Cursor.lineBreak?_of_printable start solid.printable]

theorem plainGap_of_break (start : here.rest = '\n' :: rest)
    (inside : (here.below rest).atSeparator = false) :
    plainGap here = ⟨(plainBreaks rest.length (here.below rest)).1.map (foldBreaks '\n'), true,
      (plainBreaks rest.length (here.below rest)).2⟩ := by
  rw [plainGap, Cursor.span_of_stop (by rw [start]; simp)]
  simp only [Cursor.lineBreak?_of_break start, inside, Bool.false_eq_true, if_false,
    Cursor.rest_below]

theorem plainGap_of_fold (start : here.rest = '\n' :: ' ' :: ' ' :: c :: rest) (solid : IsSolid c) :
    ∃ after, plainGap here = ⟨some [' '], true, after⟩ ∧ after.rest = c :: rest ∧
      here.line < after.line ∧ 1 ≤ after.column := by
  have first := @Cursor.next_of_printable (here.below (' ' :: ' ' :: c :: rest)) _ _ rfl (by decide)
  have second := @Cursor.next_of_printable
    ((here.below (' ' :: ' ' :: c :: rest)).past 1 (' ' :: c :: rest)) _ _ rfl (by decide)
  have breaks : plainBreaks (' ' :: ' ' :: c :: rest).length
      (here.below (' ' :: ' ' :: c :: rest)) =
      (some [], (here.below (' ' :: ' ' :: c :: rest)).past 2 (c :: rest)) := by
    rw [List.length_cons, plainBreaks, if_pos (Cursor.peek_eq rfl), first, List.length_cons,
      plainBreaks, if_pos (Cursor.peek_eq rfl), second, Cursor.past_past]
    exact plainBreaks_of_solid _ rfl solid
  refine ⟨(here.below (' ' :: ' ' :: c :: rest)).past 2 (c :: rest), ?_, rfl, Nat.lt_succ_self _,
    by simp⟩
  rw [plainGap_of_break start (Cursor.atSeparator_eq_false rfl (by decide) (by decide)), breaks]
  rfl

theorem StartsLine.atSeparator_eq (starts : StartsLine rest) (line : here.rest = rest) :
    here.atSeparator = false := by
  rw [Cursor.atSeparator, Cursor.atMark, Cursor.atMark, line]
  simp [starts.no_dashes, starts.no_dots]

theorem plainGap_of_end (start : here.rest = '\n' :: rest) (starts : StartsLine rest) :
    plainGap here = ⟨some [' '], true, here.below rest⟩ := by
  have breaks : plainBreaks rest.length (here.below rest) = (some [], here.below rest) := by
    cases rest with
    | nil => rfl
    | cons c more => exact plainBreaks_of_solid _ rfl (starts.solid c rfl)
  rw [plainGap_of_break start (starts.atSeparator_eq rfl), breaks]
  rfl

end

theorem plainFrom_word {word rest gap blanks : List Char} (isWord : IsWord word)
    (noHash : word.head? ≠ some '#') {here after : Cursor} {endsLine crosses : Bool} {steps : Nat}
    (start : here.rest = word ++ rest)
    (stop : ∀ c more, rest = c :: more → plainStopsAt false c (more.headD endMark) = true)
    (next : plainGap (here.past word.length rest) = ⟨some blanks, crosses, after⟩)
    (goesOn : blanks ≠ [] ∧ after.peek ≠ '#' ∧ 1 ≤ after.column) :
    plainFrom false 1 (steps + 1) gap endsLine here =
      ⟨gap ++ word ++ (plainFrom false 1 steps blanks crosses after).text,
        (plainFrom false 1 steps blanks crosses after).endsLine,
        (plainFrom false 1 steps blanks crosses after).after⟩ := by
  have run := plainRun_of_word isWord stop
  have notHash := isWord.peek_ne_hash noHash start
  have skipped := Cursor.skip_of_printable start fun c member => (isWord.solid c member).printable
  have column : ¬ (after.column : Int) < 1 := by
    have := goesOn.2.2
    omega
  rw [plainFrom, start, run, skipped, next]
  simp [notHash, isWord.ne_nil, goesOn.1, goesOn.2.1, column]

theorem plainFrom_last {word rest gap blanks : List Char} (isWord : IsWord word)
    (noHash : word.head? ≠ some '#') {here after : Cursor} {endsLine crosses : Bool} {steps : Nat}
    {indent : Int} (start : here.rest = word ++ rest)
    (stop : ∀ c more, rest = c :: more → plainStopsAt false c (more.headD endMark) = true)
    (next : plainGap (here.past word.length rest) = ⟨some blanks, crosses, after⟩)
    (ends : blanks = [] ∨ (after.column : Int) < indent) :
    plainFrom false indent (steps + 1) gap endsLine here = ⟨gap ++ word, crosses, after⟩ := by
  have run := plainRun_of_word isWord stop
  have notHash := isWord.peek_ne_hash noHash start
  have skipped := Cursor.skip_of_printable start fun c member => (isWord.solid c member).printable
  rw [plainFrom, start, run, skipped, next]
  rcases ends with rfl | shallow
  · simp [notHash, isWord.ne_nil]
  · simp [notHash, isWord.ne_nil, shallow]

/-- A plain scalar at the end of a line is read back, and the next line is reached. -/
theorem plainFrom_of_tail {tail written : List Char} (form : PlainTail tail written)
    {word rest gap : List Char} (isWord : IsWord word) (noHash : word.head? ≠ some '#')
    (starts : StartsLine rest) {here : Cursor} {endsLine : Bool} {steps : Nat}
    (start : here.rest = word ++ (written ++ '\n' :: rest)) (enough : written.length < steps) :
    ∃ after, plainFrom false 1 steps gap endsLine here = ⟨gap ++ (word ++ tail), true, after⟩ ∧
      after.rest = rest ∧ after.column = 0 ∧ here.line < after.line := by
  have breakStops : ∀ c more, '\n' :: rest = c :: more →
      plainStopsAt false c (more.headD endMark) = true := by
    rintro _ _ ⟨⟩
    rfl
  obtain ⟨steps, rfl⟩ := Nat.exists_eq_succ_of_ne_zero (Nat.ne_of_gt (Nat.zero_lt_of_lt enough))
  induction form generalizing word gap here endsLine steps with
  | nil =>
      refine ⟨(here.past word.length ('\n' :: rest)).below rest, ?_, rfl, rfl, Nat.lt_succ_self _⟩
      rw [plainFrom_last isWord noHash start breakStops (plainGap_of_end rfl starts)
        (.inr (by simp)), List.append_nil, List.nil_append]
  | @spaces next tail written count nextWord nextNoHash form inductionHypothesis =>
      obtain ⟨c, more, rfl⟩ := List.exists_cons_of_ne_nil nextWord.ne_nil
      have solid := nextWord.solid c List.mem_cons_self
      rw [List.append_assoc, List.append_assoc] at start
      simp only [List.length_append, List.length_replicate, List.length_cons] at enough
      obtain ⟨next, gap_eq, next_rest, next_line, column⟩ :=
        @plainGap_of_spaces (here.past word.length
        (List.replicate (count + 1) ' ' ++ (c :: more ++ (written ++ '\n' :: rest)))) c
        (more ++ (written ++ '\n' :: rest)) count rfl solid
      have whole := @plainFrom_word word _ gap _ isWord noHash here next endsLine false
        steps start (by
        rintro d rest same
        rw [List.replicate_succ] at same
        cases same
        rfl) gap_eq ⟨by simp, nextWord.peek_ne_hash nextNoHash next_rest, column⟩
      obtain ⟨steps, rfl⟩ := Nat.exists_eq_succ_of_ne_zero (n := steps) (by omega)
      obtain ⟨after, read, rest_eq, column_eq, line_lt⟩ := @inductionHypothesis (c :: more)
        (List.replicate (count + 1) ' ') nextWord nextNoHash next false next_rest steps (by omega)
      refine ⟨after, ?_, rest_eq, column_eq, next_line ▸ line_lt⟩
      rw [whole, read]
      simp
  | @fold next tail written nextWord nextNoHash form inductionHypothesis =>
      obtain ⟨c, more, rfl⟩ := List.exists_cons_of_ne_nil nextWord.ne_nil
      have solid := nextWord.solid c List.mem_cons_self
      simp only [List.cons_append, List.append_assoc] at start
      simp only [List.length_append, List.length_cons] at enough
      obtain ⟨next, gap_eq, next_rest, next_line, column⟩ :=
        @plainGap_of_fold (here.past word.length
        ('\n' :: ' ' :: ' ' :: c :: (more ++ (written ++ '\n' :: rest)))) c
        (more ++ (written ++ '\n' :: rest)) rfl solid
      have whole := @plainFrom_word word _ gap _ isWord noHash here next endsLine true
        steps start (by
        rintro _ _ ⟨⟩
        rfl) gap_eq ⟨by simp, nextWord.peek_ne_hash nextNoHash next_rest, column⟩
      obtain ⟨steps, rfl⟩ := Nat.exists_eq_succ_of_ne_zero (n := steps) (by omega)
      obtain ⟨after, read, rest_eq, column_eq, line_lt⟩ := @inductionHypothesis (c :: more) [' ']
        nextWord nextNoHash next true next_rest steps (by omega)
      refine ⟨after, ?_, rest_eq, column_eq, Nat.lt_trans next_line line_lt⟩
      rw [whole, read]
      simp

end WarningSweep.Yaml
