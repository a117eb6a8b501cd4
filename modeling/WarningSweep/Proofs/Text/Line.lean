import Mathlib.Data.Finset.Basic
import WarningSweep.Text.Basic

/-!
# Whole lines

Every text is a run of whole lines, each with its newline, and an unfinished line.  Lines are named
by the offset of their newline: `withoutLines` deletes the lines of a set of such offsets and keeps
all else in place.
-/

namespace WarningSweep.Text

/-- The text is made of whole lines. -/
def EndsLine (t : Text) : Prop := t = [] ∨ ∃ front, t = front ++ [newline]

@[simp]
theorem endsLine_nil : EndsLine [] := .inl rfl

theorem EndsLine.append {first second : Text} (firstEnds : EndsLine first)
    (secondEnds : EndsLine second) : EndsLine (first ++ second) := by
  rcases secondEnds with rfl | ⟨front, rfl⟩
  · simpa using firstEnds
  · exact .inr ⟨first ++ front, by simp⟩

theorem EndsLine.line (body : Text) {t : Text} (ends : EndsLine t) :
    EndsLine (body ++ newline :: t) := by
  have first : EndsLine (body ++ [newline]) := .inr ⟨body, rfl⟩
  simpa using first.append ends

theorem EndsLine.eq_nil {t : Text} (ends : EndsLine t) (unbroken : newline ∉ t) : t = [] := by
  rcases ends with rfl | ⟨front, rfl⟩
  · rfl
  · simp at unbroken

theorem EndsLine.right {first second : Text} (ends : EndsLine (first ++ second)) :
    EndsLine second := by
  rcases List.eq_nil_or_concat' second with rfl | ⟨initial, last, rfl⟩
  · exact endsLine_nil
  · rcases ends with empty | ⟨front, whole⟩
    · simp at empty
    · rw [← List.append_assoc] at whole
      obtain ⟨-, lastEq⟩ := List.append_inj' whole rfl
      exact .inr ⟨initial, by rw [lastEq]⟩

/-- A statement holds of every text when it holds of unfinished lines, and of a text with one more
line in front whenever it holds of the text. -/
theorem line_induction {motive : Text → Prop}
    (unfinished : ∀ t, newline ∉ t → motive t)
    (line : ∀ body t, newline ∉ body → motive t → motive (body ++ newline :: t))
    (t : Text) : motive t := by
  by_cases broken : newline ∈ t
  · obtain ⟨body, rest, cut, unbroken⟩ := List.eq_append_cons_of_mem broken
    rw [cut]
    exact line body rest unbroken (line_induction unfinished line rest)
  · exact unfinished t broken
termination_by t.length
decreasing_by
  rw [cut, List.length_append, List.length_cons]
  omega

/-- The same for texts made of whole lines. -/
theorem wholeLines_induction {motive : (t : Text) → EndsLine t → Prop}
    (nil : motive [] endsLine_nil)
    (line : ∀ body t, newline ∉ body → ∀ ends : EndsLine t, motive t ends →
      motive (body ++ newline :: t) (ends.line body))
    (t : Text) (ends : EndsLine t) : motive t ends := by
  induction t using line_induction with
  | unfinished t unbroken =>
      obtain rfl := ends.eq_nil unbroken
      exact nil
  | line body t unbroken inductionHypothesis =>
      have restEnds : EndsLine t := by
        rw [List.append_cons] at ends
        exact ends.right
      exact line body t unbroken restEnds (inductionHypothesis restEnds)

theorem EndsLine.eq_nil_or_line {t : Text} (ends : EndsLine t) :
    t = [] ∨ ∃ body rest, t = body ++ newline :: rest ∧ newline ∉ body ∧ EndsLine rest := by
  induction t, ends using wholeLines_induction with
  | nil => exact .inl rfl
  | line body t unbroken ends _ => exact .inr ⟨body, t, rfl, unbroken, ends⟩

theorem lastLineStart_append {done : Text} (ends : EndsLine done) (t : Text) :
    lastLineStart (done ++ t) = done.length + lastLineStart t := by
  have stopped : done.reverse.takeWhile (· ≠ newline) = [] := by
    rcases ends with rfl | ⟨front, rfl⟩ <;> simp
  have same : (done ++ t).reverse.takeWhile (· ≠ newline) =
      t.reverse.takeWhile (· ≠ newline) := by
    rw [List.reverse_append, List.takeWhile_append, stopped]
    split
    next all => rw [(List.takeWhile_prefix _).eq_of_length all, List.append_nil]
    next => rfl
  have bound := (List.takeWhile_prefix (l := t.reverse) (· ≠ newline)).length_le
  rw [List.length_reverse] at bound
  simp only [lastLineStart, same, List.length_append]
  omega

/-- The part of an unbroken line before the first newline is all of it. -/
theorem takeWhile_unbroken {body : Text} (unbroken : newline ∉ body) (rest : Text) :
    (body ++ rest).takeWhile (· ≠ newline) = body ++ rest.takeWhile (· ≠ newline) := by
  apply List.takeWhile_append_of_pos
  intro g member
  have : g ≠ newline := fun same => unbroken (same ▸ member)
  simpa using this

theorem line_inj {first second rest rest' : Text} (firstUnbroken : newline ∉ first)
    (secondUnbroken : newline ∉ second)
    (same : first ++ newline :: rest = second ++ newline :: rest') :
    first = second ∧ rest = rest' := by
  have heads := congrArg (List.takeWhile (· ≠ newline)) same
  rw [takeWhile_unbroken firstUnbroken, takeWhile_unbroken secondUnbroken] at heads
  obtain rfl : first = second := by simpa using heads
  exact ⟨rfl, by simpa using same⟩

theorem lastLineStart_of_not_mem {t : Text} (unbroken : newline ∉ t) : lastLineStart t = 0 := by
  have reversed : newline ∉ t.reverse := by simpa using unbroken
  have all := takeWhile_unbroken reversed []
  simp only [List.append_nil, List.takeWhile_nil] at all
  rw [lastLineStart, all, List.length_reverse, Nat.sub_self]

def wholeLines (t : Text) : Text := t.take t.lastLineStart

def openLine (t : Text) : Text := t.drop t.lastLineStart

@[simp]
theorem wholeLines_append_openLine (t : Text) : wholeLines t ++ openLine t = t :=
  List.take_append_drop _ _

theorem wholeLines_append {done : Text} (ends : EndsLine done) (rest : Text) :
    wholeLines (done ++ rest) = done ++ wholeLines rest := by
  rw [wholeLines, lastLineStart_append ends, List.take_append, List.take_of_length_le (by omega)]
  simp [wholeLines]

theorem openLine_append {done : Text} (ends : EndsLine done) (rest : Text) :
    openLine (done ++ rest) = openLine rest := by
  rw [openLine, lastLineStart_append ends, List.drop_append, List.drop_of_length_le (by omega)]
  simp [openLine]

theorem wholeLines_append_openLine_append (t chunk : Text) :
    wholeLines t ++ (openLine t ++ chunk) = t ++ chunk := by
  rw [← List.append_assoc, wholeLines_append_openLine]

theorem wholeLines_of_not_mem {t : Text} (unbroken : newline ∉ t) : wholeLines t = [] := by
  rw [wholeLines, lastLineStart_of_not_mem unbroken, List.take_zero]

theorem openLine_of_not_mem {t : Text} (unbroken : newline ∉ t) : openLine t = t := by
  rw [openLine, lastLineStart_of_not_mem unbroken, List.drop_zero]

theorem wholeLines_line (body t : Text) :
    wholeLines (body ++ newline :: t) = body ++ newline :: wholeLines t := by
  have ends : EndsLine (body ++ [newline]) := .inr ⟨body, rfl⟩
  simpa using wholeLines_append ends t

theorem openLine_line (body t : Text) : openLine (body ++ newline :: t) = openLine t := by
  have ends : EndsLine (body ++ [newline]) := .inr ⟨body, rfl⟩
  simpa using openLine_append ends t

theorem endsLine_wholeLines (t : Text) : EndsLine (wholeLines t) := by
  induction t using line_induction with
  | unfinished t unbroken =>
      rw [wholeLines_of_not_mem unbroken]
      exact endsLine_nil
  | line body t unbroken inductionHypothesis =>
      rw [wholeLines_line]
      exact inductionHypothesis.line body

theorem newline_not_mem_openLine (t : Text) : newline ∉ openLine t := by
  induction t using line_induction with
  | unfinished t unbroken =>
      rw [openLine_of_not_mem unbroken]
      exact unbroken
  | line body t unbroken inductionHypothesis =>
      rw [openLine_line]
      exact inductionHypothesis

theorem eq_of_wholeLines_eq {t front body back : Text}
    (whole : wholeLines t = front ++ body ++ newline :: back) :
    t = front ++ body ++ newline :: (back ++ openLine t) := by
  calc
    t = wholeLines t ++ openLine t := (wholeLines_append_openLine t).symm
    _ = front ++ body ++ newline :: (back ++ openLine t) := by
      rw [whole]
      simp

theorem endsLine_of_wholeLines_eq {t front body back : Text}
    (whole : wholeLines t = front ++ body ++ newline :: back) : EndsLine back := by
  have ends := endsLine_wholeLines t
  rw [whole, List.append_cons] at ends
  exact ends.right

theorem wholeLines_append_chunk (t chunk : Text) :
    wholeLines (t ++ chunk) = wholeLines t ++ wholeLines (openLine t ++ chunk) := by
  rw [← wholeLines_append (endsLine_wholeLines t), wholeLines_append_openLine_append]

theorem openLine_append_chunk (t chunk : Text) :
    openLine (t ++ chunk) = openLine (openLine t ++ chunk) := by
  rw [← wholeLines_append_openLine_append, openLine_append (endsLine_wholeLines t)]

theorem length_wholeLines (t : Text) : (wholeLines t).length = lastLineStart t := by
  have bound : lastLineStart t ≤ t.length := Nat.sub_le _ _
  rw [wholeLines, List.length_take, Nat.min_eq_left bound]

/-- What is left of a text that stands at `offset` after the unfinished line `line`: a line goes
when the offset of its newline is in `deleted`. -/
def keptLines (deleted : Finset Nat) (offset : Nat) (line : Text) : Text → Text
  | [] => line
  | g :: t =>
      if g = newline then
        (if offset ∈ deleted then [] else line ++ [newline]) ++ keptLines deleted (offset + 1) [] t
      else keptLines deleted (offset + 1) (line ++ [g]) t

/-- The text, which stands at `offset`, without the lines whose newlines are in `deleted`. -/
def withoutLines (deleted : Finset Nat) (offset : Nat) (t : Text) : Text :=
  keptLines deleted offset [] t

theorem keptLines_append {deleted : Finset Nat} {offset : Nat} {line body : Text}
    (unbroken : newline ∉ body) (t : Text) :
    keptLines deleted offset line (body ++ t) =
      keptLines deleted (offset + body.length) (line ++ body) t := by
  induction body generalizing offset line with
  | nil => simp
  | cons g body inductionHypothesis =>
      rw [List.mem_cons, not_or] at unbroken
      rw [List.cons_append, keptLines, if_neg (Ne.symm unbroken.1),
        inductionHypothesis unbroken.2]
      simp [Nat.add_comm, Nat.add_left_comm]

theorem withoutLines_of_not_mem {deleted : Finset Nat} {offset : Nat} {t : Text}
    (unbroken : newline ∉ t) : withoutLines deleted offset t = t := by
  have kept := @keptLines_append deleted offset [] t unbroken []
  simpa [withoutLines, keptLines] using kept

theorem withoutLines_line {deleted : Finset Nat} {offset : Nat} {body : Text}
    (unbroken : newline ∉ body) (t : Text) :
    withoutLines deleted offset (body ++ newline :: t) =
      (if offset + body.length ∈ deleted then [] else body ++ [newline]) ++
        withoutLines deleted (offset + body.length + 1) t := by
  rw [withoutLines, keptLines_append unbroken, keptLines, if_pos rfl, List.nil_append]
  rfl

theorem withoutLines_append {deleted : Finset Nat} {offset : Nat} {done : Text}
    (ends : EndsLine done) (t : Text) :
    withoutLines deleted offset (done ++ t) =
      withoutLines deleted offset done ++ withoutLines deleted (offset + done.length) t := by
  induction done, ends using wholeLines_induction generalizing offset with
  | nil => simp [withoutLines_of_not_mem]
  | line body done unbroken ends inductionHypothesis =>
      rw [List.append_assoc, List.cons_append, withoutLines_line unbroken,
        withoutLines_line unbroken, inductionHypothesis, List.append_assoc]
      congr 3
      simp only [List.length_append, List.length_cons]
      omega

theorem withoutLines_congr {first second : Finset Nat} {offset : Nat} {t : Text}
    (agree : ∀ place, offset ≤ place → place < offset + t.length →
      (place ∈ first ↔ place ∈ second)) :
    withoutLines first offset t = withoutLines second offset t := by
  induction t using line_induction generalizing offset with
  | unfinished t unbroken =>
      rw [withoutLines_of_not_mem unbroken, withoutLines_of_not_mem unbroken]
  | line body t unbroken inductionHypothesis =>
      simp only [List.length_append, List.length_cons] at agree
      have here := agree (offset + body.length) (by omega) (by omega)
      have later := @inductionHypothesis (offset + body.length + 1) fun place above below =>
        agree place (by omega) (by omega)
      rw [withoutLines_line unbroken, withoutLines_line unbroken, later]
      simp only [here]

theorem withoutLines_empty (offset : Nat) (t : Text) : withoutLines ∅ offset t = t := by
  induction t using line_induction generalizing offset with
  | unfinished t unbroken => exact withoutLines_of_not_mem unbroken
  | line body t unbroken inductionHypothesis =>
      rw [withoutLines_line unbroken, inductionHypothesis]
      simp

theorem withoutLines_of_disjoint {deleted : Finset Nat} {offset : Nat} {t : Text}
    (outside : ∀ place ∈ deleted, place < offset ∨ offset + t.length ≤ place) :
    withoutLines deleted offset t = t := by
  have same : withoutLines deleted offset t = withoutLines ∅ offset t := by
    apply withoutLines_congr
    intro place above below
    simp only [Finset.notMem_empty, iff_false]
    intro member
    have := outside place member
    omega
  rw [same, withoutLines_empty]

theorem withoutLines_append_of_below {deleted : Finset Nat} {done : Text} (ends : EndsLine done)
    (below : ∀ stop ∈ deleted, stop < done.length) (t : Text) :
    withoutLines deleted 0 (done ++ t) = withoutLines deleted 0 done ++ t := by
  have rest : withoutLines deleted (0 + done.length) t = t := by
    apply withoutLines_of_disjoint
    intro stop member
    have := below stop member
    omega
  rw [withoutLines_append ends, rest]

/-- Deleting one more line, after all the others, takes out just that line. -/
theorem withoutLines_insert {deleted : Finset Nat} {done front body back : Text}
    (below : ∀ stop ∈ deleted, stop < done.length) (doneEnds : EndsLine done)
    (frontEnds : EndsLine front) (unbroken : newline ∉ body) :
    withoutLines (insert (done.length + (front.length + body.length)) deleted) 0
        (done ++ (front ++ body ++ newline :: back)) =
      withoutLines deleted 0 done ++ front ++ back := by
  generalize added : done.length + (front.length + body.length) = stop
  have inDone : withoutLines (insert stop deleted) 0 done = withoutLines deleted 0 done := by
    apply withoutLines_congr
    intro place _ inside
    rw [Finset.mem_insert, or_iff_right]
    omega
  have inFront : withoutLines (insert stop deleted) (0 + done.length) front = front := by
    apply withoutLines_of_disjoint
    intro place member
    rcases Finset.mem_insert.mp member with rfl | earlier
    · omega
    · have := below place earlier
      omega
  have inBack : withoutLines (insert stop deleted) (stop + 1) back = back := by
    apply withoutLines_of_disjoint
    intro place member
    rcases Finset.mem_insert.mp member with rfl | earlier
    · omega
    · have := below place earlier
      omega
  have here : 0 + done.length + front.length + body.length = stop := by omega
  rw [List.append_assoc front, withoutLines_append doneEnds, withoutLines_append frontEnds,
    withoutLines_line unbroken, here, if_pos (Finset.mem_insert_self _ _), inDone, inFront, inBack]
  simp

end WarningSweep.Text
