import WarningSweep.Buffer
import WarningSweep.Proofs.Text.Line

/-!
# Finding warning lines

For a head without newlines the search for warnings looks at one line after another.  What
`lastWarning?` finds is the last line of the text that is a warning: indentation, then the head.
-/

namespace WarningSweep.Text

/-- A line, without its newline, that holds the head after indentation. -/
def IsWarning (head body : Text) : Prop :=
  ∃ indent rest, body = indent ++ head ++ rest ∧ ∀ g ∈ indent, isIndent g = true

def WarningEndsAt (head t : Text) (stop : Nat) : Prop :=
  ∃ front body back, t = front ++ body ++ newline :: back ∧ EndsLine front ∧ newline ∉ body ∧
    IsWarning head body ∧ stop = front.length + body.length

/-- The last warning line of `t` that ends at `low` or after it, and before `high`, ends at
`stop`. -/
structure LastWarningIn (head t : Text) (low high stop : Nat) : Prop where
  above : low ≤ stop
  below : stop < high
  warns : WarningEndsAt head t stop
  last : ∀ later < high, WarningEndsAt head t later → later ≤ stop

theorem isWarning_iff {head body : Text} :
    IsWarning head body ↔
      ∃ indent ≤ (body.takeWhile isIndent).length, head <+: body.drop indent := by
  constructor
  · rintro ⟨indent, rest, rfl, blank⟩
    refine ⟨indent.length, ?_, by simp⟩
    rw [List.append_assoc, List.takeWhile_append_of_pos blank, List.length_append]
    omega
  · rintro ⟨indent, within, rest, shape⟩
    refine ⟨body.take indent, rest, ?_, ?_⟩
    · rw [List.append_assoc, shape, List.take_append_drop]
    · intro g member
      have within : body.take indent <+: body.takeWhile isIndent :=
        List.prefix_of_prefix_length_le (List.take_prefix _ _) (List.takeWhile_prefix _)
          (by rw [List.length_take]; omega)
      exact List.all_eq_true.mp List.all_takeWhile g (within.subset member)

instance (head body : Text) : Decidable (IsWarning head body) :=
  decidable_of_iff _ isWarning_iff.symm

/-- A text without newlines that begins a broken text begins its first line. -/
theorem prefix_line_iff {head body : Text} (plain : newline ∉ head) (rest : Text) :
    head <+: body ++ newline :: rest ↔ head <+: body := by
  constructor
  · intro begins
    rcases List.prefix_or_prefix_of_prefix begins (List.prefix_append body _) with
      inside | ⟨more, rfl⟩
    · exact inside
    · rw [List.prefix_append_right_inj] at begins
      cases more with
      | nil => simp
      | cons g more =>
          obtain ⟨rfl, -⟩ := List.cons_prefix_cons.mp begins
          simp at plain
  · exact fun begins => begins.trans (List.prefix_append _ _)

section

variable {head body : Text} (plain : newline ∉ head) (unbroken : newline ∉ body) (rest : Text)

include plain unbroken

theorem warningAt?_line {indent : Nat} (within : indent ≤ body.length) :
    warningAt? head indent (body ++ newline :: rest) =
      if head <+: body.drop indent then some (body.length + 1) else none := by
  rw [warningAt?, List.drop_append_of_le_length within]
  split
  next missing =>
    rw [after?_eq_none_iff, prefix_line_iff plain] at missing
    rw [if_neg missing]
  next after found =>
    rw [after?_eq_some_iff] at found
    have begins : head <+: body.drop indent :=
      (prefix_line_iff plain rest).mp ⟨after, found.symm⟩
    rw [if_pos begins]
    obtain ⟨more, shape⟩ := begins
    rw [← shape, List.append_assoc, List.append_cancel_left_eq] at found
    subst found
    have moreUnbroken : newline ∉ more := by
      intro member
      apply unbroken
      apply List.mem_of_mem_drop (i := indent)
      rw [← shape]
      exact List.mem_append_right _ member
    have size := congrArg List.length shape
    rw [List.length_append, List.length_drop] at size
    rw [takeWhile_unbroken moreUnbroken]
    simp
    omega

theorem warningWithin?_line {indent : Nat} (within : indent ≤ body.length) :
    warningWithin? head (body ++ newline :: rest) indent =
      if ∃ shift ≤ indent, head <+: body.drop shift then some (body.length + 1) else none := by
  induction indent with
  | zero =>
      rw [warningWithin?, warningAt?_line plain unbroken rest within]
      simp
  | succ indent inductionHypothesis =>
      have shifts : (∃ shift ≤ indent + 1, head <+: body.drop shift) ↔
          (∃ shift ≤ indent, head <+: body.drop shift) ∨ head <+: body.drop (indent + 1) := by
        simp only [Nat.le_add_one_iff, or_and_right, exists_or, exists_eq_left]
      rw [warningWithin?, warningAt?_line plain unbroken rest within,
        inductionHypothesis (by omega)]
      by_cases here : head <+: body.drop (indent + 1) <;> simp [shifts, here]

theorem warningLength?_line :
    warningLength? head (body ++ newline :: rest) =
      if IsWarning head body then some (body.length + 1) else none := by
  have indents : (body ++ newline :: rest).takeWhile isIndent = body.takeWhile isIndent := by
    rw [List.takeWhile_append]
    split
    next all =>
      rw [(List.takeWhile_prefix _).eq_of_length all]
      simp [isIndent, newline]
    next => rfl
  rw [warningLength?, indents,
    warningWithin?_line plain unbroken rest (List.takeWhile_prefix _).length_le]
  simp only [isWarning_iff]

omit plain in
theorem skipLine_line : skipLine (body ++ newline :: rest) = rest := by
  rw [skipLine, List.dropWhile_append_of_pos]
  · simp
  · intro g member
    have : g ≠ newline := fun same => unbroken (same ▸ member)
    simpa using this

theorem lastWarning?_line (offset : Nat) :
    lastWarning? head offset (body ++ newline :: rest) =
      (lastWarning? head (offset + body.length + 1) rest).or
        (if IsWarning head body then some offset else none) := by
  have size : (body ++ newline :: rest).length = body.length + 1 + rest.length := by
    simp only [List.length_append, List.length_cons]
    omega
  have length := warningLength?_line plain unbroken rest
  have skipped := skipLine_line unbroken rest
  have dropped : (body ++ newline :: rest).drop (body.length + 1) = rest := by simp
  rcases shape : body ++ newline :: rest with _ | ⟨g, more⟩
  · simp at shape
  · rw [shape] at size length skipped dropped
    rw [lastWarning?, length]
    by_cases warns : IsWarning head body
    · simp only [warns, if_true]
      rw [Nat.add_sub_cancel, ← List.drop_succ_cons (a := g), dropped, Nat.add_assoc]
    · simp only [warns, if_false, Option.or_none, skipped]
      congr 1
      rw [List.length_cons] at size
      omega

end

@[simp]
theorem lastWarning?_nil (head : Text) (offset : Nat) : lastWarning? head offset [] = none := by
  rw [lastWarning?]

theorem lastWarning?_append {head : Text} (plain : newline ∉ head) {first : Text}
    (ends : EndsLine first) (second : Text) (offset : Nat) :
    lastWarning? head offset (first ++ second) =
      (lastWarning? head (offset + first.length) second).or (lastWarning? head offset first) := by
  induction first, ends using wholeLines_induction generalizing offset with
  | nil => simp
  | line body first unbroken ends inductionHypothesis =>
      rw [List.append_assoc, List.cons_append, lastWarning?_line plain unbroken,
        lastWarning?_line plain unbroken, inductionHypothesis, Option.or_assoc]
      congr 2
      simp only [List.length_append, List.length_cons]
      omega

theorem WarningEndsAt.lt_length {head t : Text} {stop : Nat} (warns : WarningEndsAt head t stop) :
    stop < t.length := by
  obtain ⟨front, body, back, rfl, -, -, -, rfl⟩ := warns
  simp only [List.length_append, List.length_cons]
  omega

theorem not_warningEndsAt_of_not_mem {head t : Text} (unbroken : newline ∉ t) (stop : Nat) :
    ¬ WarningEndsAt head t stop := by
  rintro ⟨front, body, back, rfl, -⟩
  simp at unbroken

theorem warningEndsAt_line {head body t : Text} (unbroken : newline ∉ body) {stop : Nat} :
    WarningEndsAt head (body ++ newline :: t) stop ↔
      (IsWarning head body ∧ stop = body.length) ∨
        ∃ later, WarningEndsAt head t later ∧ stop = body.length + 1 + later := by
  constructor
  · rintro ⟨front, line, back, cut, ends, lineUnbroken, warns, rfl⟩
    rcases ends.eq_nil_or_line with rfl | ⟨first, others, rfl, firstUnbroken, othersEnd⟩
    · obtain ⟨rfl, -⟩ := line_inj unbroken lineUnbroken (by simpa using cut)
      exact .inl ⟨warns, by simp⟩
    · simp only [List.append_assoc, List.cons_append] at cut
      obtain ⟨rfl, rfl⟩ := line_inj unbroken firstUnbroken cut
      refine .inr ⟨others.length + line.length, ⟨others, line, back, by simp, othersEnd,
        lineUnbroken, warns, rfl⟩, ?_⟩
      simp only [List.length_append, List.length_cons]
      omega
  · rintro (⟨warns, rfl⟩ | ⟨later, ⟨front, line, back, rfl, ends, lineUnbroken, warns, rfl⟩, rfl⟩)
    · exact ⟨[], body, t, rfl, endsLine_nil, unbroken, warns, by simp⟩
    · refine ⟨body ++ newline :: front, line, back, by simp, ends.line body,
        lineUnbroken, warns, ?_⟩
      simp only [List.length_append, List.length_cons]
      omega

theorem warningEndsAt_append {head done : Text} (ends : EndsLine done) {t : Text} {stop : Nat} :
    WarningEndsAt head (done ++ t) stop ↔
      WarningEndsAt head done stop ∨
        ∃ later, WarningEndsAt head t later ∧ stop = done.length + later := by
  induction done, ends using wholeLines_induction generalizing stop with
  | nil =>
      have none : ¬ WarningEndsAt head [] stop := not_warningEndsAt_of_not_mem (by simp) stop
      simp [none]
  | line body done unbroken ends inductionHypothesis =>
      rw [List.append_assoc, List.cons_append, warningEndsAt_line unbroken,
        warningEndsAt_line unbroken, or_assoc]
      refine or_congr Iff.rfl ?_
      simp only [inductionHypothesis, or_and_right, exists_or, List.length_append,
        List.length_cons]
      refine or_congr Iff.rfl ?_
      constructor
      · rintro ⟨-, ⟨later, warns, rfl⟩, rfl⟩
        exact ⟨later, warns, by omega⟩
      · rintro ⟨later, warns, rfl⟩
        exact ⟨done.length + later, ⟨later, warns, rfl⟩, by omega⟩

theorem warningEndsAt_append_left {head t : Text} {stop : Nat} (inside : stop < t.length)
    (more : Text) : WarningEndsAt head (t ++ more) stop ↔ WarningEndsAt head t stop := by
  constructor
  · rintro ⟨front, body, back, cut, ends, unbroken, warns, rfl⟩
    have within : front ++ body ++ [newline] <+: t := by
      refine List.prefix_of_prefix_length_le ⟨back, ?_⟩ (List.prefix_append t more) ?_
      · rw [cut]
        simp
      · simp only [List.length_append, List.length_singleton]
        omega
    obtain ⟨back, rfl⟩ := within
    exact ⟨front, body, back, by simp, ends, unbroken, warns, rfl⟩
  · rintro ⟨front, body, back, rfl, ends, unbroken, warns, rfl⟩
    exact ⟨front, body, back ++ more, by simp, ends, unbroken, warns, rfl⟩

theorem warningEndsAt_wholeLines {head t : Text} {stop : Nat} :
    WarningEndsAt head (wholeLines t) stop ↔ WarningEndsAt head t stop := by
  have none : ∀ later, ¬ WarningEndsAt head (openLine t) later :=
    not_warningEndsAt_of_not_mem (newline_not_mem_openLine t)
  have split := @warningEndsAt_append head _ (endsLine_wholeLines t) (openLine t) stop
  rw [wholeLines_append_openLine] at split
  simp [split, none]

theorem WarningEndsAt.length_le {head opened fresh : Text} {stop : Nat}
    (warns : WarningEndsAt head (opened ++ fresh) stop) (unbroken : newline ∉ opened) :
    opened.length ≤ stop := by
  apply Nat.le_of_not_lt
  intro inside
  exact not_warningEndsAt_of_not_mem unbroken stop
    ((warningEndsAt_append_left inside fresh).mp warns)

/-- The warnings that end in the text after an unfinished line are those among the lines that this
text completes. -/
theorem warningEndsAt_fresh_iff {head done opened : Text} (ends : EndsLine done)
    (unbroken : newline ∉ opened) {fresh : Text} {stop : Nat} :
    (done.length + opened.length ≤ stop ∧ WarningEndsAt head (done ++ (opened ++ fresh)) stop) ↔
      ∃ later, WarningEndsAt head (wholeLines (opened ++ fresh)) later ∧
        stop = done.length + later := by
  simp only [warningEndsAt_append ends, warningEndsAt_wholeLines]
  constructor
  · rintro ⟨above, inside | later⟩
    · have := inside.lt_length
      omega
    · exact later
  · rintro ⟨later, warns, rfl⟩
    have := warns.length_le unbroken
    exact ⟨by omega, .inr ⟨later, warns, rfl⟩⟩

section

variable {head done opened fresh : Text} (ends : EndsLine done) (unbroken : newline ∉ opened)

include ends unbroken

theorem not_lastWarningIn_fresh
    (none : ∀ stop, ¬ WarningEndsAt head (wholeLines (opened ++ fresh)) stop) (high stop : Nat) :
    ¬ LastWarningIn head (done ++ (opened ++ fresh)) (done.length + opened.length) high stop := by
  intro found
  obtain ⟨later, warns, -⟩ :=
    (warningEndsAt_fresh_iff ends unbroken).mp ⟨found.above, found.warns⟩
  exact none later warns

theorem lastWarningIn_fresh_iff {front body back : Text}
    (whole : wholeLines (opened ++ fresh) = front ++ body ++ newline :: back)
    (frontEnds : EndsLine front) (bodyUnbroken : newline ∉ body) (warns : IsWarning head body)
    (last : ∀ stop, ¬ WarningEndsAt head back stop) {stop : Nat} :
    LastWarningIn head (done ++ (opened ++ fresh)) (done.length + opened.length)
        (done ++ (opened ++ fresh)).length stop ↔
      stop = done.length + (front.length + body.length) := by
  have here : WarningEndsAt head (wholeLines (opened ++ fresh)) (front.length + body.length) :=
    ⟨front, body, back, whole, frontEnds, bodyUnbroken, warns, rfl⟩
  have latest : ∀ later, WarningEndsAt head (wholeLines (opened ++ fresh)) later →
      later ≤ front.length + body.length := by
    intro later ending
    rw [whole, List.append_assoc, warningEndsAt_append frontEnds] at ending
    rcases ending with inFront | ⟨place, inRest, rfl⟩
    · have := inFront.lt_length
      omega
    · rcases (warningEndsAt_line bodyUnbroken).mp inRest with ⟨-, rfl⟩ | ⟨beyond, inBack, -⟩
      · exact Nat.le_refl _
      · exact absurd inBack (last beyond)
  have found := (warningEndsAt_fresh_iff ends unbroken).mpr ⟨_, here, rfl⟩
  constructor
  · intro chosen
    obtain ⟨later, ending, rfl⟩ :=
      (warningEndsAt_fresh_iff ends unbroken).mp ⟨chosen.above, chosen.warns⟩
    have upper := latest later ending
    have lower := chosen.last _ found.2.lt_length found.2
    omega
  · rintro rfl
    refine ⟨found.1, found.2.lt_length, found.2, ?_⟩
    intro other inside ending
    by_cases above : done.length + opened.length ≤ other
    · obtain ⟨later, inFresh, rfl⟩ := (warningEndsAt_fresh_iff ends unbroken).mp ⟨above, ending⟩
      have := latest later inFresh
      omega
    · have := found.1
      omega

end

theorem lastWarningIn_append_left {head t : Text} {low high : Nat} (inside : high ≤ t.length)
    (more : Text) {stop : Nat} :
    LastWarningIn head (t ++ more) low high stop ↔ LastWarningIn head t low high stop := by
  have same : ∀ place < high, WarningEndsAt head (t ++ more) place ↔ WarningEndsAt head t place :=
    fun place below => warningEndsAt_append_left (by omega) more
  constructor
  · rintro ⟨above, below, warns, last⟩
    exact ⟨above, below, (same stop below).mp warns, fun later earlier ending =>
      last later earlier ((same later earlier).mpr ending)⟩
  · rintro ⟨above, below, warns, last⟩
    exact ⟨above, below, (same stop below).mpr warns, fun later earlier ending =>
      last later earlier ((same later earlier).mp ending)⟩

section

variable {head : Text} (plain : newline ∉ head) {t : Text} (ends : EndsLine t) {offset : Nat}

include plain ends

theorem lastWarning?_eq_none_iff :
    lastWarning? head offset t = none ↔ ∀ stop, ¬ WarningEndsAt head t stop := by
  induction t, ends using wholeLines_induction generalizing offset with
  | nil => simp [not_warningEndsAt_of_not_mem]
  | line body t unbroken ends inductionHypothesis =>
      rw [lastWarning?_line plain unbroken, Option.or_eq_none_iff, inductionHypothesis]
      simp only [warningEndsAt_line unbroken, not_or, not_exists, not_and]
      constructor
      · rintro ⟨later, here⟩ stop
        refine ⟨?_, fun place warns => absurd warns (later place)⟩
        intro warns
        simp [warns] at here
      · intro missing
        refine ⟨fun place warns => (missing _).2 place warns rfl, ?_⟩
        have harmless : ¬ IsWarning head body := fun warns => (missing _).1 warns rfl
        simp [harmless]

theorem lastWarning?_eq_some {start : Nat} (found : lastWarning? head offset t = some start) :
    ∃ front body back, t = front ++ body ++ newline :: back ∧ EndsLine front ∧
      newline ∉ body ∧ IsWarning head body ∧ start = offset + front.length ∧
      ∀ stop, ¬ WarningEndsAt head back stop := by
  induction t, ends using wholeLines_induction generalizing offset start with
  | nil => simp at found
  | line body t unbroken ends inductionHypothesis =>
      rw [lastWarning?_line plain unbroken] at found
      cases later : lastWarning? head (offset + body.length + 1) t with
      | some place =>
          obtain ⟨front, line, back, rfl, frontEnds, lineUnbroken, warns, rfl, last⟩ :=
            inductionHypothesis later
          rw [later, Option.some_or, Option.some.injEq] at found
          refine ⟨body ++ newline :: front, line, back, by simp, frontEnds.line body,
            lineUnbroken, warns, ?_, last⟩
          simp only [List.length_append, List.length_cons]
          omega
      | none =>
          rw [later, Option.none_or] at found
          obtain ⟨warns, rfl⟩ : IsWarning head body ∧ offset = start := by
            simpa using found
          exact ⟨[], body, t, rfl, endsLine_nil, unbroken, warns, by simp,
            (lastWarning?_eq_none_iff plain ends).mp later⟩

end

theorem exists_of_warningAt? {head t : Text} {indent length : Nat}
    (found : warningAt? head indent t = some length) :
    ∃ warned rest, t = warned ++ newline :: rest ∧ length = warned.length + 1 := by
  rw [warningAt?] at found
  split at found
  next => cases found
  next after follows =>
    rw [after?_eq_some_iff] at follows
    by_cases ends : after.contains newline = true
    · rw [if_pos ends, Option.some.injEq] at found
      obtain ⟨body, rest, rfl, unbroken⟩ :=
        List.eq_append_cons_of_mem (List.contains_iff_mem.mp ends)
      rw [takeWhile_unbroken unbroken] at found
      have within : indent ≤ t.length := by
        by_contra beyond
        rw [List.drop_of_length_le (by omega)] at follows
        simp at follows
      refine ⟨t.take indent ++ head ++ body, rest, ?_, ?_⟩
      · calc
          t = t.take indent ++ t.drop indent := (List.take_append_drop indent t).symm
          _ = t.take indent ++ head ++ body ++ newline :: rest := by
            rw [follows]
            simp
      · rw [← found]
        simp [Nat.min_eq_left within, Nat.add_assoc]
    · rw [if_neg ends] at found
      cases found

theorem exists_of_warningLength? {head t : Text} {length : Nat}
    (found : warningLength? head t = some length) :
    ∃ warned rest, t = warned ++ newline :: rest ∧ length = warned.length + 1 := by
  rw [warningLength?] at found
  generalize (t.takeWhile isIndent).length = indent at found
  induction indent with
  | zero => exact exists_of_warningAt? found
  | succ indent inductionHypothesis =>
      rw [warningWithin?] at found
      cases here : warningAt? head (indent + 1) t with
      | some length' =>
          rw [here] at found
          cases found
          exact exists_of_warningAt? here
      | none =>
          rw [here] at found
          exact inductionHypothesis found

/-- Whatever the head is, what the search finds is the start of a line. -/
theorem exists_line_of_lastWarning? {head t : Text} (ends : EndsLine t) {offset start : Nat}
    (found : lastWarning? head offset t = some start) :
    ∃ front body back, t = front ++ body ++ newline :: back ∧ EndsLine front ∧ newline ∉ body ∧
      start = offset + front.length := by
  fun_induction lastWarning? head offset t generalizing start with
  | case1 => cases found
  | case2 offset g rest length warns inductionHypothesis =>
      obtain ⟨warned, after, cut, rfl⟩ := exists_of_warningLength? warns
      have dropped : rest.drop (warned.length + 1 - 1) = after := by
        rw [Nat.add_sub_cancel, ← List.drop_succ_cons (a := g), cut]
        simp
      rw [dropped] at found inductionHypothesis
      rw [cut] at ends ⊢
      rcases Option.or_eq_some_iff.mp found with later | ⟨-, here⟩
      · have afterEnds : EndsLine after := by
          rw [List.append_cons] at ends
          exact ends.right
        obtain ⟨front, body, back, rfl, frontEnds, unbroken, rfl⟩ :=
          inductionHypothesis afterEnds later
        refine ⟨warned ++ newline :: front, body, back, by simp,
          frontEnds.line warned, unbroken, ?_⟩
        simp only [List.length_append, List.length_cons]
        omega
      · obtain rfl : offset = start := by simpa using here
        rcases ends.eq_nil_or_line with empty | ⟨body, back, line, unbroken, -⟩
        · simp at empty
        · exact ⟨[], body, back, line, endsLine_nil, unbroken, rfl⟩
  | case3 offset g rest missing line inductionHypothesis =>
      rcases ends.eq_nil_or_line with empty | ⟨first, others, cut, firstUnbroken, othersEnd⟩
      · cases empty
      · have skipped : line = others := by
          change skipLine (g :: rest) = others
          rw [cut, skipLine_line firstUnbroken]
        rw [skipped] at found inductionHypothesis
        obtain ⟨front, body, back, rfl, frontEnds, unbroken, rfl⟩ :=
          inductionHypothesis othersEnd found
        refine ⟨first ++ newline :: front, body, back, by rw [cut]; simp, frontEnds.line first,
          unbroken, ?_⟩
        have size := congrArg List.length cut
        simp only [List.length_append, List.length_cons] at size ⊢
        omega

end WarningSweep.Text
