import Mathlib.Data.Finset.Card
import Mathlib.Data.Finset.Image
import WarningSweep.Proofs.Text.Occurrence
import WarningSweep.Proofs.Text.Warning

/-!
# Counting lines

Deleting whole lines takes away as many lines as are deleted, and as many warnings as there are
warnings among them.  Every whole line is a warning for the empty head, so one count serves for
both.
-/

namespace WarningSweep.Text

def LineEndsAt (t : Text) (stop : Nat) : Prop :=
  ∃ front back, t = front ++ newline :: back ∧ stop = front.length

theorem LineEndsAt.append {t : Text} {stop : Nat} (ending : LineEndsAt t stop) (more : Text) :
    LineEndsAt (t ++ more) stop := by
  obtain ⟨front, back, rfl, rfl⟩ := ending
  exact ⟨front, back ++ more, by simp, rfl⟩

theorem LineEndsAt.append_left {t : Text} {stop : Nat} (ending : LineEndsAt t stop) (front : Text) :
    LineEndsAt (front ++ t) (front.length + stop) := by
  obtain ⟨before, back, rfl, rfl⟩ := ending
  exact ⟨front ++ before, back, by simp, by simp⟩

theorem WarningEndsAt.lineEndsAt {head t : Text} {stop : Nat} (warns : WarningEndsAt head t stop) :
    LineEndsAt t stop := by
  obtain ⟨front, body, back, rfl, -, -, -, rfl⟩ := warns
  exact ⟨front ++ body, back, rfl, by simp⟩

/-- Every line is a warning for the empty head. -/
theorem LineEndsAt.warningEndsAt {t : Text} {stop : Nat} (ending : LineEndsAt t stop) :
    WarningEndsAt [] t stop := by
  obtain ⟨front, back, rfl, rfl⟩ := ending
  refine ⟨wholeLines front, openLine front, back, by simp, endsLine_wholeLines front,
    newline_not_mem_openLine front, ⟨[], openLine front, rfl, by simp⟩, ?_⟩
  rw [← List.length_append, wholeLines_append_openLine]

/-- Whether a warning ends at a newline can be read off the line before it. -/
theorem warningEndsAt_iff {head t : Text} {stop : Nat} :
    WarningEndsAt head t stop ↔
      t[stop]? = some newline ∧ IsWarning head (openLine (t.take stop)) := by
  constructor
  · rintro ⟨front, body, back, rfl, ends, unbroken, warns, rfl⟩
    rw [← List.length_append, List.take_left, openLine_append ends, openLine_of_not_mem unbroken]
    exact ⟨by simp, warns⟩
  · rintro ⟨here, warns⟩
    obtain ⟨inside, found⟩ := List.getElem?_eq_some_iff.mp here
    refine ⟨wholeLines (t.take stop), openLine (t.take stop), t.drop (stop + 1), ?_,
      endsLine_wholeLines _, newline_not_mem_openLine _, warns, ?_⟩
    · rw [wholeLines_append_openLine, ← found, ← List.drop_eq_getElem_cons inside,
        List.take_append_drop]
    · rw [← List.length_append, wholeLines_append_openLine, List.length_take,
        Nat.min_eq_left inside.le]

instance (head t : Text) (stop : Nat) : Decidable (WarningEndsAt head t stop) :=
  decidable_of_iff _ warningEndsAt_iff.symm

def warningEnds (head t : Text) : Finset Nat :=
  (Finset.range t.length).filter (WarningEndsAt head t)

@[simp]
theorem mem_warningEnds {head t : Text} {stop : Nat} :
    stop ∈ warningEnds head t ↔ WarningEndsAt head t stop := by
  rw [warningEnds, Finset.mem_filter, Finset.mem_range]
  exact ⟨And.right, fun warns => ⟨warns.lt_length, warns⟩⟩

theorem warningEnds_of_not_mem {head t : Text} (unbroken : newline ∉ t) :
    warningEnds head t = ∅ := by
  ext stop
  simp [not_warningEndsAt_of_not_mem unbroken]

theorem warningEnds_line {head body : Text} (unbroken : newline ∉ body) (t : Text) :
    warningEnds head (body ++ newline :: t) =
      (if IsWarning head body then {body.length} else ∅) ∪
        (warningEnds head t).image (body.length + 1 + ·) := by
  ext stop
  rw [mem_warningEnds, warningEndsAt_line unbroken, Finset.mem_union, Finset.mem_image]
  refine or_congr ?_ ?_
  · by_cases warns : IsWarning head body <;> simp [warns]
  · simp only [mem_warningEnds, eq_comm]

/-- The first line counts for itself, and the others as they do without it. -/
theorem card_filter_warningEnds_line {head body : Text} (unbroken : newline ∉ body) (t : Text)
    (wanted : Nat → Prop) [DecidablePred wanted] :
    ((warningEnds head (body ++ newline :: t)).filter wanted).card =
      (if IsWarning head body ∧ wanted body.length then 1 else 0) +
        ((warningEnds head t).filter fun stop => wanted (body.length + 1 + stop)).card := by
  rw [warningEnds_line unbroken, Finset.filter_union, Finset.card_union_of_disjoint,
    Finset.filter_image, Finset.card_image_of_injective _ fun _ _ => Nat.add_left_cancel]
  · congr 1
    by_cases warns : IsWarning head body <;> by_cases here : wanted body.length <;>
      simp [warns, here, Finset.filter_singleton]
  · rw [Finset.disjoint_left]
    intro stop first later
    obtain ⟨place, -, rfl⟩ := Finset.mem_image.mp (Finset.mem_filter.mp later).1
    by_cases warns : IsWarning head body
    · simp only [warns, if_true, Finset.mem_filter, Finset.mem_singleton] at first
      omega
    · simp [warns] at first

theorem card_warningEnds_line {head body : Text} (unbroken : newline ∉ body) (t : Text) :
    (warningEnds head (body ++ newline :: t)).card =
      (if IsWarning head body then 1 else 0) + (warningEnds head t).card := by
  simpa using card_filter_warningEnds_line unbroken t fun _ => True

theorem card_warningEnds_withoutLines (head : Text) (deleted : Finset Nat) (offset : Nat)
    (t : Text) :
    (warningEnds head (withoutLines deleted offset t)).card =
      ((warningEnds head t).filter fun stop => offset + stop ∉ deleted).card := by
  induction t using line_induction generalizing offset with
  | unfinished t unbroken =>
      rw [withoutLines_of_not_mem unbroken, warningEnds_of_not_mem unbroken, Finset.filter_empty]
  | line body t unbroken inductionHypothesis =>
      have later := inductionHypothesis (offset + body.length + 1)
      rw [withoutLines_line unbroken, card_filter_warningEnds_line unbroken]
      simp only [← Nat.add_assoc] at later ⊢
      rw [← later]
      by_cases gone : offset + body.length ∈ deleted
      · simp [gone]
      · rw [if_neg gone, List.append_assoc, List.singleton_append,
          card_warningEnds_line unbroken]
        simp [gone]

/-- Where only warnings are deleted, as many warnings are missing as lines. -/
theorem card_warningEnds_add_card {head t : Text} {deleted : Finset Nat}
    (warn : ∀ stop ∈ deleted, WarningEndsAt head t stop) :
    (warningEnds head (withoutLines deleted 0 t)).card + deleted.card =
      (warningEnds head t).card := by
  have within : deleted ⊆ warningEnds head t :=
    fun stop member => mem_warningEnds.mpr (warn stop member)
  have stay : ((warningEnds head t).filter fun stop => 0 + stop ∉ deleted) =
      warningEnds head t \ deleted := by
    ext stop
    simp
  rw [card_warningEnds_withoutLines, stay, Finset.card_sdiff_add_card_eq_card within]

/-- Two ways to delete lines that leave the same text delete as many lines. -/
theorem card_eq_of_withoutLines_eq {t : Text} {first second : Finset Nat}
    (firstEnds : ∀ stop ∈ first, LineEndsAt t stop)
    (secondEnds : ∀ stop ∈ second, LineEndsAt t stop)
    (same : withoutLines first 0 t = withoutLines second 0 t) : first.card = second.card := by
  have firstCount := card_warningEnds_add_card fun stop member =>
    (firstEnds stop member).warningEndsAt
  have secondCount := card_warningEnds_add_card fun stop member =>
    (secondEnds stop member).warningEndsAt
  rw [same] at firstCount
  omega

theorem Visible.card_warningEnds_blankLine {head line : Text} (visible : Visible head)
    (blank : IsBlankLine line) (t : Text) :
    (warningEnds head (line ++ t)).card = (warningEnds head t).card := by
  obtain ⟨body, rfl, unbroken, inked⟩ := blank.exists_body
  have harmless : ¬ IsWarning head body := by
    rintro ⟨indent, rest, rfl, -⟩
    exact visible.not_infix_of_blank inked ⟨indent, rest, rfl⟩
  rw [List.append_assoc, List.singleton_append, card_warningEnds_line unbroken, if_neg harmless,
    Nat.zero_add]

theorem Visible.card_warningEnds_dropBlankLines {head : Text} (visible : Visible head) (t : Text) :
    (warningEnds head (Sweep.dropBlankLines t)).card = (warningEnds head t).card := by
  induction t using Sweep.dropBlankLines_induction with
  | settled t unblank same => rw [same]
  | line first rest blank same inductionHypothesis =>
      rw [same, inductionHypothesis, visible.card_warningEnds_blankLine blank]

end WarningSweep.Text
