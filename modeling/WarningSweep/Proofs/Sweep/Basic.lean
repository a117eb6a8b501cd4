import WarningSweep.Proofs.Buffer
import WarningSweep.Sweep

/-!
# What a sweep returns

A sweep fails with the fault that its text is not read past, or returns the text that the walk over
the pieces leaves, without the blank lines that start it.
-/

namespace WarningSweep.Sweep

/-- The text that the walk over the pieces leaves, with the tail. -/
def leftover (sweep : Sweep) (pieces : List Piece) (tail : Text) : Text :=
  ((sweep.walk pieces).buffer.append sweep.warningHead tail).text

theorem run_eq_error_iff {sweep : Sweep} {t : Text} {fault : RegionFault} :
    sweep.run t = .error fault ↔
      RegionFault.find? sweep.room [] (sweep.markers.pieces t).1 = some fault := by
  rcases parts : sweep.markers.pieces t with ⟨pieces, tail⟩
  cases found : RegionFault.find? sweep.room [] pieces <;> simp [run, parts, found]

theorem run_eq_ok_iff {sweep : Sweep} {t : Text} {outcome : Outcome} :
    sweep.run t = .ok outcome ↔
      RegionFault.find? sweep.room [] (sweep.markers.pieces t).1 = none ∧
        outcome.text = dropBlankLines
          (sweep.leftover (sweep.markers.pieces t).1 (sweep.markers.pieces t).2) ∧
        outcome.summary = (sweep.walk (sweep.markers.pieces t).1).summary := by
  rcases parts : sweep.markers.pieces t with ⟨pieces, tail⟩
  obtain ⟨text, summary⟩ := outcome
  cases found : RegionFault.find? sweep.room [] pieces <;>
    simp [run, leftover, parts, found, eq_comm]

/-- There is room for the regions of the text, whatever else may be wrong with it. -/
def HasRoom (sweep : Sweep) (t : Text) : Prop := ∀ offset, sweep.run t ≠ .error (.tooDeep offset)

/-- All that an END can do to the state: the region keeps its warning, has none to lose, or loses
one. -/
theorem leave_cases (sweep : Sweep) (state : State) (content : Text) :
    (sweep.leave state content).last = some .stop ∧
      (sweep.leave state content).summary.regions = state.summary.regions + 1 ∧
      ((sweep.keeps (state.last = some .start) content = true ∧
          (sweep.leave state content).buffer =
            (state.buffer.append sweep.warningHead content).forget ∧
          (sweep.leave state content).summary.kept = state.summary.kept + 1 ∧
          (sweep.leave state content).summary.removed = state.summary.removed) ∨
        (sweep.keeps (state.last = some .start) content = false ∧
          (state.buffer.append sweep.warningHead content).remove? = none ∧
          (sweep.leave state content).buffer = state.buffer.append sweep.warningHead content ∧
          (sweep.leave state content).summary.kept = state.summary.kept ∧
          (sweep.leave state content).summary.removed = state.summary.removed) ∨
        (sweep.keeps (state.last = some .start) content = false ∧
          (state.buffer.append sweep.warningHead content).remove? =
            some (sweep.leave state content).buffer ∧
          (sweep.leave state content).summary.kept = state.summary.kept ∧
          (sweep.leave state content).summary.removed = state.summary.removed + 1)) := by
  cases kept : sweep.keeps (state.last = some .start) content with
  | true => simp [leave, kept]
  | false =>
      cases removed : (state.buffer.append sweep.warningHead content).remove? with
      | none => simp [leave, kept, removed]
      | some shorter => simp [leave, kept, removed]

theorem leaf_of_keeps_eq_false {sweep : Sweep} {leaf : Bool} {content : Text}
    (released : sweep.keeps leaf content = false) : leaf = true := by
  cases leaf with
  | true => rfl
  | false => simp [keeps] at released

/-- After an END no warning is pending, whatever became of the region's warning. -/
theorem pending_leave (sweep : Sweep) (state : State) (content : Text) :
    (sweep.leave state content).buffer.pending = none := by
  obtain ⟨-, -, ⟨-, buffer, -⟩ | ⟨-, none, buffer, -⟩ | ⟨-, removed, -⟩⟩ :=
    leave_cases sweep state content
  · rw [buffer]
    rfl
  · rw [buffer, ← Buffer.remove?_eq_none_iff]
    exact none
  · exact Buffer.pending_of_remove? removed

theorem walk_concat (sweep : Sweep) (pieces : List Piece) (piece : Piece) :
    sweep.walk (pieces ++ [piece]) = sweep.step (sweep.walk pieces) piece := by
  simp [walk]

end WarningSweep.Sweep
