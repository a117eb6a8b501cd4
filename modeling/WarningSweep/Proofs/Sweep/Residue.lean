import WarningSweep.Proofs.Sweep.Meaning
import WarningSweep.Proofs.Text.Occurrence

/-!
# Markers that a sweep leaves behind

A sweep takes out each marker that it reads, once.  Where a marker stood inside the halves of
another one, the halves then meet and spell a marker in the outcome.  A sweep leaves no marker
behind exactly when each such marker stands on a warning line that goes.
-/

namespace WarningSweep

open Text

/-- The plain text spells a marker between `front` and `back`, across a place where a marker was. -/
structure Splices (markers : Markers) (reading : Reading) (mark : Mark) (front back : Text) :
    Prop where
  plain_eq : reading.plain = front ++ markers.ofMark mark ++ back
  crosses : ∃ first second, reading.tokens = first ++ second ∧
    front.length < (Token.plain first).length ∧
    (Token.plain first).length < front.length + (markers.ofMark mark).length

namespace Markers

variable {markers : Markers}

/-- No marker stands in a chunk, so one that the plain text spells crosses a junction. -/
theorem Reads.splices {offset : Nat} {t : Text} {reading : Reading}
    (reads : markers.Reads offset t reading) {mark : Mark} {front back : Text}
    (spelled : reading.plain = front ++ markers.ofMark mark ++ back) :
    Splices markers reading mark front back := by
  refine ⟨spelled, ?_⟩
  induction reads generalizing front with
  | tail unmarked => exact absurd ⟨front, back, spelled.symm⟩ (unmarked mark)
  | @token offset before rest first reading leftmost remaining inductionHypothesis =>
      have joined : before ++ reading.plain = front ++ markers.ofMark mark ++ back := by
        simpa [Reading.plain] using spelled
      have chunk : before <+: before ++ reading.plain := List.prefix_append _ _
      have start : front <+: before ++ reading.plain := by
        rw [joined, List.append_assoc]
        exact List.prefix_append _ _
      have stop : front ++ markers.ofMark mark <+: before ++ reading.plain := by
        rw [joined]
        exact List.prefix_append _ _
      by_cases beyond : before.length ≤ front.length
      · obtain ⟨later, rfl⟩ := List.prefix_of_prefix_length_le chunk start beyond
        rw [List.append_assoc before, List.append_assoc before] at joined
        obtain ⟨first, second, split, low, high⟩ :=
          inductionHypothesis (List.append_cancel_left joined)
        refine ⟨_ :: first, second, by rw [split]; rfl, ?_, ?_⟩ <;>
        · simp only [Token.plain_cons, List.length_append]
          omega
      by_cases within : (front ++ markers.ofMark mark).length ≤ before.length
      · obtain ⟨more, rfl⟩ := List.prefix_of_prefix_length_le stop chunk within
        have nonempty := List.length_pos_iff.mpr (markers.ofMark_ne_nil mark)
        refine absurd ?_ (leftmost mark front.length (by
          simp only [List.length_append]
          omega))
        simp [List.append_assoc]
      · rw [List.length_append] at within
        refine ⟨[_], reading.tokens, rfl, ?_, ?_⟩ <;>
        · simp only [Token.plain_cons, Token.plain_nil, List.append_nil]
          omega

end Markers

namespace Sweep

def standardMarkers : Markers :=
  ⟨Markers.standardStart, Markers.standardStop, by decide, by decide, by decide⟩

/-- The sweep for the markers and warnings that sources carry unless the settings say otherwise. -/
def standard (room : Nat) : Sweep := ⟨standardMarkers, standardWarningHead, {}, room⟩

theorem visible_standard (mark : Mark) : Visible (standardMarkers.ofMark mark) := by
  cases mark with
  | start => exact ⟨by decide, .char '/', by decide, by decide, by decide⟩
  | stop => exact ⟨by decide, .char '/', by decide, by decide, by decide⟩

/-- A text that cannot stand in a blank line stays exactly on the lines that stay. -/
theorem infix_outcome_iff {sweep : Sweep} (plain : newline ∉ sweep.warningHead) {t : Text}
    {outcome : Outcome} (swept : sweep.run t = .ok outcome) {part : Text}
    (visible : Visible part) :
    part <:+: outcome.text ↔
      ∃ stop, OccursOn part (sweep.markers.reading 0 0 t).plain stop ∧
        ¬ sweep.Deletes (sweep.markers.reading 0 0 t) stop := by
  obtain ⟨-, text, -⟩ := run_eq_ok_iff.mp swept
  obtain ⟨deleted, mem_deleted, left⟩ := exists_leftover_eq plain
    (sweep.markers.pieces t).1 (sweep.markers.pieces t).2
  have inside : ∀ stop ∈ deleted, stop < 0 + (sweep.markers.reading 0 0 t).plain.length := by
    intro stop member
    obtain ⟨region, -, found⟩ := (mem_deleted stop).mp member
    rw [Nat.zero_add]
    exact found.warns.lt_length
  rw [text, visible.infix_dropBlankLines_iff, left]
  refine (infix_withoutLines_iff visible.unbroken inside).trans ?_
  simp only [mem_deleted, Nat.zero_add]
  rfl

/-- A standard sweep leaves no marker behind exactly when each marker that its chunks spell across a
junction stands on a line that it deletes. -/
theorem unmarked_outcome_iff {room : Nat} {t : Text} {outcome : Outcome}
    (swept : (standard room).run t = .ok outcome) :
    (∀ mark, ¬ (standard room).markers.ofMark mark <:+: outcome.text) ↔
      ∀ reading, (standard room).markers.Reads 0 t reading → ∀ mark front back,
        Splices (standard room).markers reading mark front back →
        (standard room).Deletes reading
          (front.length + ((standard room).markers.ofMark mark).length + restOfLine back) := by
  have plain : newline ∉ (standard room).warningHead :=
    (by decide : newline ∉ ofString standardWarningHead)
  have reads := (standard room).markers.reads_reading 0 0 t
  have balanced := balanced_of_run_eq_ok swept
  constructor
  · intro unmarked reading otherReads mark front back splices
    obtain rfl := otherReads.eq_reading_of_balanced balanced
    by_contra stays
    exact unmarked mark ((infix_outcome_iff plain swept (visible_standard mark)).mpr
      ⟨_, ⟨front, back, splices.plain_eq, rfl⟩, stays⟩)
  · intro gone mark within
    obtain ⟨_, ⟨front, back, spelled, rfl⟩, stays⟩ :=
      (infix_outcome_iff plain swept (visible_standard mark)).mp within
    exact stays (gone _ reads mark front back (reads.splices spelled))

theorem unmarked_outcome_of_one_region :
    (standard 900).run "f(/*<64BIT-FORMAT>*/\"a\"/*</64BIT-FORMAT>*/)" =
        .ok ⟨"f(\"a\")", ⟨1, 0, 0⟩⟩ ∧
      ∀ reading,
        (standard 900).markers.Reads 0 "f(/*<64BIT-FORMAT>*/\"a\"/*</64BIT-FORMAT>*/)" reading →
        ∀ mark front back, Splices (standard 900).markers reading mark front back →
        (standard 900).Deletes reading
          (front.length + ((standard 900).markers.ofMark mark).length + restOfLine back) := by
  have swept : (standard 900).run "f(/*<64BIT-FORMAT>*/\"a\"/*</64BIT-FORMAT>*/)" =
      .ok ⟨"f(\"a\")", ⟨1, 0, 0⟩⟩ := by decide +kernel
  refine ⟨swept, (unmarked_outcome_iff swept).mp ?_⟩
  rintro (_ | _)
  · decide
  · decide

/-- The halves of a START around an empty region meet and spell that START. -/
theorem start_left_behind :
    (standard 900).run "/*<64BIT-/*<64BIT-FORMAT>*//*</64BIT-FORMAT>*/FORMAT>*/" =
        .ok ⟨"/*<64BIT-FORMAT>*/", ⟨1, 1, 0⟩⟩ ∧
      (standard 900).markers.ofMark .start <:+: ofString "/*<64BIT-FORMAT>*/" := by
  exact ⟨by decide +kernel, List.infix_rfl⟩

end Sweep

end WarningSweep
