import Mathlib.Data.List.Induction
import WarningSweep.Proofs.Buffer
import WarningSweep.Proofs.Marker.Reading
import WarningSweep.Proofs.Sweep.Basic
import WarningSweep.Proofs.Text.Blank

/-!
# Texts that a sweep leaves alone

A sweep only takes away.  What the walk leaves is a part of the plain text, in order, and each
marker makes the plain text shorter than the text, so a text comes back unchanged only when it holds
no marker and does not begin with a blank line.
-/

namespace WarningSweep.Sweep

open Text

theorem step_sublist (sweep : Sweep) (state : State) (piece : Piece) :
    (sweep.step state piece).buffer.text.Sublist (state.buffer.text ++ piece.before) := by
  rw [step]
  cases piece.mark with
  | start => simp [enter, Buffer.forget]
  | stop =>
      obtain ⟨-, -, ⟨-, buffer, -⟩ | ⟨-, -, buffer, -⟩ | ⟨-, removed, -⟩⟩ :=
        leave_cases sweep state piece.before
      · simp [buffer, Buffer.forget]
      · simp [buffer]
      · simpa using Buffer.sublist_of_remove? removed

theorem walk_sublist (sweep : Sweep) (pieces : List Piece) :
    (sweep.walk pieces).buffer.text.Sublist (Token.plain (pieces.map Piece.token)) := by
  induction pieces using List.reverseRecOn with
  | nil => exact List.Sublist.refl _
  | append_singleton pieces piece inductionHypothesis =>
      rw [walk_concat, List.map_append, Token.plain_append]
      refine (sweep.step_sublist (sweep.walk pieces) piece).trans ?_
      simpa using inductionHypothesis

theorem leftover_sublist (sweep : Sweep) (pieces : List Piece) (tail : Text) :
    (sweep.leftover pieces tail).Sublist (Reading.plain ⟨pieces.map Piece.token, tail⟩) := by
  rw [leftover, Buffer.append_text]
  exact (sweep.walk_sublist pieces).append (List.Sublist.refl tail)

theorem run_of_unmarked (sweep : Sweep) {t : Text}
    (unmarked : ∀ mark, ¬ sweep.markers.ofMark mark <:+: t) :
    sweep.run t = .ok ⟨dropBlankLines t, {}⟩ := by
  have pieces : sweep.markers.pieces t = ([], t) := Markers.scan_of_unmarked unmarked
  rw [run_eq_ok_iff, pieces]
  exact ⟨rfl, by simp [leftover, walk], rfl⟩

theorem unmarked_of_length_le (sweep : Sweep) {t : Text} {outcome : Outcome}
    (swept : sweep.run t = .ok outcome) (long : t.length ≤ outcome.text.length) (mark : Mark) :
    ¬ sweep.markers.ofMark mark <:+: t := by
  obtain ⟨-, text, -⟩ := run_eq_ok_iff.mp swept
  have reads := sweep.markers.reads_reading 0 0 t
  have kept : outcome.text.length ≤ (sweep.markers.reading 0 0 t).plain.length := by
    rw [text]
    exact ((dropBlankLines_suffix _).sublist.trans (sweep.leftover_sublist _ _)).length_le
  have shorter := reads.length_plain_add_le
  exact reads.unmarked_of_tokens_eq_nil (List.length_eq_zero_iff.mp (by omega)) mark

theorem not_beginsBlank_of_run {sweep : Sweep} {t : Text} {outcome : Outcome}
    (swept : sweep.run t = .ok outcome) : ¬ BeginsBlank outcome.text := by
  rw [(run_eq_ok_iff.mp swept).2.1]
  exact not_beginsBlank_dropBlankLines _

theorem run_of_settled (sweep : Sweep) {t : Text}
    (unmarked : ∀ mark, ¬ sweep.markers.ofMark mark <:+: t) (unblank : ¬ BeginsBlank t) :
    sweep.run t = .ok ⟨t, {}⟩ := by
  rw [sweep.run_of_unmarked unmarked, dropBlankLines_of_not_beginsBlank unblank]

/-- A sweep gives a text back exactly when it holds no marker and does not begin with a blank line,
and then there was nothing to count.  No outcome begins with a blank line, so a second sweep changes
nothing unless taking out markers has made new ones. -/
theorem run_eq_self_iff (sweep : Sweep) (t : Text) :
    ((∃ summary, sweep.run t = .ok ⟨t, summary⟩) ↔
      (∀ mark, ¬ sweep.markers.ofMark mark <:+: t) ∧ ¬ BeginsBlank t) ∧
    (∀ summary, sweep.run t = .ok ⟨t, summary⟩ → summary = ⟨0, 0, 0⟩) ∧
    ∀ outcome, sweep.run t = .ok outcome →
      ¬ BeginsBlank outcome.text ∧
      ((∀ mark, ¬ sweep.markers.ofMark mark <:+: outcome.text) →
        sweep.run outcome.text = .ok ⟨outcome.text, ⟨0, 0, 0⟩⟩) := by
  have settled : ∀ summary, sweep.run t = .ok ⟨t, summary⟩ →
      (∀ mark, ¬ sweep.markers.ofMark mark <:+: t) ∧ ¬ BeginsBlank t := by
    intro summary swept
    exact ⟨sweep.unmarked_of_length_le swept (Nat.le_refl _), not_beginsBlank_of_run swept⟩
  refine ⟨⟨?_, ?_⟩, ?_, ?_⟩
  · rintro ⟨summary, swept⟩
    exact settled summary swept
  · rintro ⟨unmarked, unblank⟩
    exact ⟨{}, sweep.run_of_settled unmarked unblank⟩
  · intro summary swept
    obtain ⟨unmarked, unblank⟩ := settled summary swept
    rw [sweep.run_of_settled unmarked unblank] at swept
    cases swept
    rfl
  · intro outcome swept
    have unblank := not_beginsBlank_of_run swept
    exact ⟨unblank, fun unmarked => sweep.run_of_settled unmarked unblank⟩

end WarningSweep.Sweep
