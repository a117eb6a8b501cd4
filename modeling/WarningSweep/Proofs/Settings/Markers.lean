import WarningSweep.Proofs.Batch.Plan
import WarningSweep.Proofs.Marker.Unique
import WarningSweep.Proofs.Sweep.Fault

/-!
# Markers that settings may have

The check refuses markers that are empty or equal.  That is not enough to tell them apart: where one
begins with the other, no text that holds a marker can be swept.  Where neither does, a region
between texts that have no glyph in common with the markers is swept as one region.
-/

namespace WarningSweep

namespace Markers

variable {markers : Markers}

def Foreign (markers : Markers) (t : Text) : Prop :=
  ∀ g ∈ t, ∀ mark, g ∉ markers.ofMark mark

theorem Foreign.not_prefix {t : Text} (foreign : markers.Foreign t) {place : Nat}
    (inside : place < t.length) (rest : Text) (mark : Mark) :
    ¬ markers.ofMark mark <+: (t ++ rest).drop place := by
  intro begins
  obtain ⟨first, more, marker_eq⟩ := List.exists_cons_of_ne_nil (markers.ofMark_ne_nil mark)
  rw [List.drop_append_of_le_length (Nat.le_of_lt inside), List.drop_eq_getElem_cons inside,
    marker_eq, List.cons_append, List.cons_prefix_cons] at begins
  apply foreign t[place] (List.getElem_mem inside) mark
  rw [marker_eq, ← begins.1]
  exact List.mem_cons_self

theorem Foreign.unmarked {t : Text} (foreign : markers.Foreign t) (mark : Mark) :
    ¬ markers.ofMark mark <:+: t := by
  intro occurs
  obtain ⟨first, more, marker_eq⟩ := List.exists_cons_of_ne_nil (markers.ofMark_ne_nil mark)
  have member : first ∈ markers.ofMark mark := by
    rw [marker_eq]
    exact List.mem_cons_self
  exact foreign first (occurs.subset member) mark member

def enclosed (markers : Markers) (before body after : Text) : Text :=
  before ++ markers.start ++ (body ++ markers.stop ++ after)

theorem reads_enclosed {before body after : Text} (beforeForeign : markers.Foreign before)
    (bodyForeign : markers.Foreign body) (afterForeign : markers.Foreign after) :
    ∃ opening closing, opening.mark = .start ∧ closing.mark = .stop ∧
      markers.Reads 0 (markers.enclosed before body after) ⟨[opening, closing], after⟩ := by
  have leftmost {t : Text} (foreign : markers.Foreign t) (mark : Mark) (rest : Text) :
      ∀ other, ∀ place < t.length,
        ¬ markers.ofMark other <+: (t ++ markers.ofMark mark ++ rest).drop place := by
    intro other place earlier
    rw [List.append_assoc]
    exact foreign.not_prefix earlier _ other
  exact ⟨_, _, rfl, rfl, .token (leftmost beforeForeign .start _)
    (.token (leftmost bodyForeign .stop after) (.tail afterForeign.unmarked))⟩

end Markers

namespace Sweep

open Mark

variable {sweep : Sweep} {before body after : Text}

theorem regions_of_pair (sweep : Sweep) {opening closing : Piece} (opens : opening.mark = .start)
    (closes : closing.mark = .stop) : (sweep.walk [opening, closing]).summary.regions = 1 := by
  have last : sweep.walk [opening, closing] =
      sweep.leave (sweep.walk [opening]) closing.before := by
    rw [show [opening, closing] = [opening] ++ [closing] from rfl, walk_concat, step, closes]
  have first : sweep.walk [opening] = sweep.enter {} opening.before := by
    rw [walk, List.foldl_cons, List.foldl_nil, step, opens]
  rw [last, (sweep.leave_cases _ _).2.1, first]
  rfl

theorem exists_run_enclosed (free : sweep.markers.PrefixFree)
    (beforeForeign : sweep.markers.Foreign before) (bodyForeign : sweep.markers.Foreign body)
    (afterForeign : sweep.markers.Foreign after) :
    ∃ outcome, sweep.run (sweep.markers.enclosed before body after) = .ok outcome ∧
      outcome.summary.regions = 1 := by
  obtain ⟨opening, closing, opens, closes, reads⟩ :=
    Markers.reads_enclosed beforeForeign bodyForeign afterForeign
  have reading_eq := reads.eq_of_prefixFree free (sweep.markers.reads_reading 0 0 _)
  have marks_eq : (sweep.markers.reading 0 0
      (sweep.markers.enclosed before body after)).tokens.map Token.mark = [.start, .stop] := by
    rw [reading_eq, List.map_cons, List.map_cons, opens, closes]
    rfl
  have shallow : NeverAbove (sweep.room + 1) [.start, .stop] := by
    simp only [neverAbove_cons, neverAbove_nil, weight]
    omega
  obtain ⟨outcome, swept⟩ : ∃ outcome,
      sweep.run (sweep.markers.enclosed before body after) = .ok outcome := by
    rw [exists_ok_iff, marks_eq]
    exact ⟨by decide, shallow⟩
  refine ⟨outcome, swept, ?_⟩
  have tokens_eq := congrArg Reading.tokens reading_eq
  simp only [Markers.reading, List.map_eq_cons_iff, List.map_eq_nil_iff] at tokens_eq
  obtain ⟨first, _, pieces_eq, rfl, second, _, rfl, rfl, rfl⟩ := tokens_eq
  rw [(run_eq_ok_iff.mp swept).2.2, Markers.pieces, pieces_eq]
  exact sweep.regions_of_pair opens closes

theorem exists_fault_enclosed (overlapping : ¬ sweep.markers.PrefixFree)
    (before body after : Text) :
    ∃ fault, sweep.run (sweep.markers.enclosed before body after) = .error fault := by
  cases swept : sweep.run (sweep.markers.enclosed before body after) with
  | error fault => exact ⟨fault, rfl⟩
  | ok outcome =>
      have balanced := balanced_of_run_eq_ok swept
      exact absurd ⟨before, _, rfl⟩ (Markers.unmarked_of_balanced overlapping balanced .start)

end Sweep

namespace Settings

variable {settings : Settings} {start stop : String}

theorem markers_of_ready {room : Nat} {sweep : Sweep} {extensions : List String}
    (textual : settings.IsTextual extensions) (start_eq : settings.startMarker = .str start)
    (stop_eq : settings.stopMarker = .str stop)
    (ready : Plan.ofSettings room settings = .ok (.ready sweep)) :
    sweep.markers.start = Text.ofString start ∧ sweep.markers.stop = Text.ofString stop := by
  obtain ⟨head, head_eq⟩ := textual.head
  obtain ⟨word, word_eq⟩ := textual.word
  simp only [Plan.ofSettings, start_eq, stop_eq, head_eq, word_eq] at ready
  split at ready
  · cases ready
  split at ready
  · cases ready
  obtain ⟨markers, made, ready⟩ := Operation.bind_eq_ok_iff.mp ready
  cases ready
  rw [Markers.ofTexts] at made
  split at made
  · cases made
  split at made
  · cases made
  cases made
  exact ⟨rfl, rfl⟩

/-- Accepted markers are usable exactly when neither begins with the other: a region between texts
that share no glyph with them is then swept as one region, and otherwise it is refused. -/
theorem enclosed_swept_iff (room : Nat) {extensions : List String}
    (textual : settings.IsTextual extensions)
    (accepted : settings.check.1 = .ok []) (start_eq : settings.startMarker = .str start)
    (stop_eq : settings.stopMarker = .str stop) :
    ∃ sweep, Plan.ofSettings room settings = .ok (.ready sweep) ∧
      ∀ before body after : Text,
        (∀ g, g ∈ before ∨ g ∈ body ∨ g ∈ after →
          g ∉ Text.ofString start ∧ g ∉ Text.ofString stop) →
        ((¬ Text.ofString start <+: stop ∧ ¬ Text.ofString stop <+: start) →
          ∃ outcome, sweep.run (before ++ start ++ body ++ stop ++ after) = .ok outcome ∧
            outcome.summary.regions = 1) ∧
        ((Text.ofString start <+: stop ∨ Text.ofString stop <+: start) →
          ∃ fault, sweep.run (before ++ start ++ body ++ stop ++ after) = .error fault) := by
  obtain ⟨sweep, ready⟩ := exists_ready_of_accepted room textual accepted
  obtain ⟨start_text, stop_text⟩ := markers_of_ready textual start_eq stop_eq ready
  refine ⟨sweep, ready, ?_⟩
  intro before body after apart
  rw [← start_text, ← stop_text] at apart ⊢
  have shape : before ++ sweep.markers.start ++ body ++ sweep.markers.stop ++ after =
      sweep.markers.enclosed before body after := by
    simp only [Markers.enclosed, List.append_assoc]
  have foreign {t : Text} (part : ∀ g ∈ t, g ∈ before ∨ g ∈ body ∨ g ∈ after) :
      sweep.markers.Foreign t := by
    intro g member mark
    cases mark with
    | start => exact (apart g (part g member)).1
    | stop => exact (apart g (part g member)).2
  rw [shape]
  constructor
  · rintro ⟨startApart, stopApart⟩
    exact Sweep.exists_run_enclosed ⟨startApart, stopApart⟩ (foreign fun _ member => .inl member)
      (foreign fun _ member => .inr (.inl member)) (foreign fun _ member => .inr (.inr member))
  · intro overlap
    apply Sweep.exists_fault_enclosed
    rintro ⟨startApart, stopApart⟩
    exact overlap.elim startApart stopApart

/-- The END marker `x` stands inside the START marker `(x)`, and the markers can be told apart. -/
theorem enclosed_swept_inside :
    let settings : Settings := { startMarker := .str "(x)", stopMarker := .str "x" }
    settings.check.1 = .ok [] ∧ ∃ sweep outcome, Plan.ofSettings 900 settings = .ok (.ready sweep) ∧
      sweep.run "1(x)x2" = .ok outcome ∧ outcome.summary.regions = 1 := by
  intro settings
  have accepted : settings.check.1 = .ok [] := by decide +kernel
  have textual : settings.IsTextual [".m", ".mm", ".h", ".c", ".cpp"] :=
    ⟨⟨_, rfl⟩, ⟨_, rfl⟩, ⟨_, rfl⟩, ⟨_, rfl⟩, ⟨_, rfl⟩⟩
  obtain ⟨sweep, ready, usable⟩ := enclosed_swept_iff 900 textual accepted rfl rfl
  have apart : ∀ g, g ∈ Text.ofString "1" ∨ g ∈ Text.ofString "" ∨ g ∈ Text.ofString "2" →
      g ∉ Text.ofString "(x)" ∧ g ∉ Text.ofString "x" := by
    simp [Text.ofString]
  obtain ⟨outcome, swept, regions⟩ := (usable "1" "" "2" apart).1 (by decide)
  exact ⟨accepted, sweep, outcome, ready, swept, regions⟩

/-- The markers `ab` and `a` are accepted, but outside all regions `ab` is taken for the END
marker. -/
theorem accepted_markers_refused :
    let settings : Settings := { startMarker := .str "ab", stopMarker := .str "a" }
    let sweep : Sweep := ⟨⟨"ab", "a", by decide, by decide, by decide⟩,
      Sweep.standardWarningHead, {}, 900⟩
    settings.IsTextual [".m", ".mm", ".h", ".c", ".cpp"] ∧ settings.check.1 = .ok [] ∧
      Plan.ofSettings 900 settings = .ok (.ready sweep) ∧
      (∀ g ∈ Text.ofString "q", g ∉ Text.ofString "ab" ∧ g ∉ Text.ofString "a") ∧
      sweep.run ("ab" ++ "q" ++ "a") = .error (.markers (.unopened 0)) := by
  intro settings sweep
  refine ⟨⟨⟨_, rfl⟩, ⟨_, rfl⟩, ⟨_, rfl⟩, ⟨_, rfl⟩, ⟨_, rfl⟩⟩, by decide +kernel, by cbv,
    by decide, ?_⟩
  decide +kernel

end Settings

end WarningSweep
