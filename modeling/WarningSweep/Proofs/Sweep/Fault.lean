import WarningSweep.Proofs.Marker.Fault
import WarningSweep.Proofs.Marker.Regions
import WarningSweep.Proofs.Sweep.Basic

/-!
# Which texts a sweep refuses

A sweep succeeds exactly on the texts whose markers are balanced and whose regions there is room
for.  It refuses a text at the first START that there is no room for, if an END is ahead of it.  Any
other text it refuses for the first END that closes nothing, or else for a START that nothing
closes.
-/

namespace WarningSweep

open Mark

namespace Sweep

variable {sweep : Sweep} {t : Text}

theorem find?_pieces_eq_none_iff :
    RegionFault.find? sweep.room [] (sweep.markers.pieces t).1 = none ↔
      Balanced ((sweep.markers.reading 0 0 t).tokens.map Token.mark) ∧
        NeverAbove (sweep.room + 1) ((sweep.markers.reading 0 0 t).tokens.map Token.mark) := by
  have announced := sweep.markers.stopsAnnounced_scan 0 0 t
  rw [Markers.reading, Piece.map_mark_token]
  refine (@RegionFault.find?_eq_none_iff _ [] _ announced (Nat.zero_le _)).trans ?_
  constructor
  · rintro ⟨above, below, level⟩
    exact ⟨⟨by simpa using above, by simpa using level⟩, by simpa using below⟩
  · rintro ⟨balanced, below⟩
    exact ⟨by simpa using balanced.1, by simpa using below, by simpa using balanced.2⟩

theorem exists_ok_iff :
    (∃ outcome, sweep.run t = .ok outcome) ↔
      Balanced ((sweep.markers.reading 0 0 t).tokens.map Token.mark) ∧
        NeverAbove (sweep.room + 1) ((sweep.markers.reading 0 0 t).tokens.map Token.mark) := by
  rw [← find?_pieces_eq_none_iff]
  constructor
  · rintro ⟨outcome, swept⟩
    exact (run_eq_ok_iff.mp swept).1
  · intro missing
    exact ⟨⟨_, _⟩, run_eq_ok_iff.mpr ⟨missing, rfl, rfl⟩⟩

theorem balanced_of_run_eq_ok {outcome : Outcome} (swept : sweep.run t = .ok outcome) :
    Balanced ((sweep.markers.reading 0 0 t).tokens.map Token.mark) :=
  (exists_ok_iff.mp ⟨outcome, swept⟩).1

end Sweep

end WarningSweep
