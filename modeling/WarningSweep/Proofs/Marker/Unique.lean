import WarningSweep.Proofs.Marker.Balance

/-!
# The reading of a balanced text

Where one marker begins with the other, a text can have several readings.  The scan then reads the
markers so that they never pair up: a balanced text has no markers at all.  So a text that the scan
finds balanced has one reading, whatever its markers are.
-/

namespace WarningSweep.Markers

open Mark

def preferred : (inside : Bool) → Mark
  | true => .start
  | false => .stop

variable {markers : Markers}

theorem at?_of_preferred {inside : Bool} {t : Text}
    (begins : markers.ofMark (preferred inside) <+: t) :
    ∃ rest, markers.at? inside t = some (preferred inside, rest) := by
  obtain ⟨rest, rfl⟩ := begins
  refine ⟨rest, ?_⟩
  cases inside with
  | false =>
      have found : Text.after? markers.stop (markers.stop ++ rest) = some rest :=
        Text.after?_eq_some_iff.mpr rfl
      simp [at?, preferred, ofMark, found]
  | true =>
      have found : Text.after? markers.start (markers.start ++ rest) = some rest :=
        Text.after?_eq_some_iff.mpr rfl
      simp [at?, preferred, ofMark, found]

section

variable {inside : Bool}
  (overlaps : ∀ mark, markers.ofMark (preferred inside) <+: markers.ofMark mark)

include overlaps

theorem mark_of_at? {t rest : Text} {mark : Mark}
    (found : markers.at? inside t = some (mark, rest)) : mark = preferred inside := by
  have begins : markers.ofMark mark <+: t := ⟨rest, (eq_of_at?_eq_some found).symm⟩
  obtain ⟨rest', first⟩ := at?_of_preferred ((overlaps mark).trans begins)
  rw [found, Option.some.injEq, Prod.mk.injEq] at first
  exact first.1

theorem mark_of_next? {t before rest : Text} {mark : Mark}
    (found : markers.next? inside t = some (before, mark, rest)) : mark = preferred inside := by
  induction t generalizing before with
  | nil => simp [next?] at found
  | cons g t inductionHypothesis =>
      unfold next? at found
      split at found
      next here =>
        simp only [Option.some.injEq, Prod.mk.injEq] at found
        obtain ⟨-, rfl, rfl⟩ := found
        exact mark_of_at? overlaps here
      next =>
        simp only [Option.map_eq_some_iff, Prod.mk.injEq] at found
        obtain ⟨⟨front, back⟩, later, -, rfl⟩ := found
        exact inductionHypothesis later

end

theorem overlap_of_not_prefixFree (overlapping : ¬ markers.PrefixFree) :
    ∃ inside, ∀ mark, markers.ofMark (preferred inside) <+: markers.ofMark mark := by
  by_cases startFirst : markers.start <+: markers.stop
  · refine ⟨true, ?_⟩
    rintro (_ | _)
    · exact List.prefix_rfl
    · exact startFirst
  · have stopFirst : markers.stop <+: markers.start := by
      by_contra neither
      exact overlapping ⟨startFirst, neither⟩
    refine ⟨false, ?_⟩
    rintro (_ | _)
    · exact stopFirst
    · exact List.prefix_rfl

theorem marks_inside_of_overlap
    (overlaps : ∀ mark, markers.ofMark (preferred true) <+: markers.ofMark mark)
    {depth offset : Nat} {t : Text} (inside : depth ≠ 0) :
    ∀ mark ∈ (markers.reading depth offset t).tokens.map Token.mark, mark = .start := by
  induction depth, offset, t using Markers.scan.induct markers with
  | case1 depth offset t missing =>
      rw [reading_of_next?_eq_none missing]
      simp
  | case2 depth offset t before mark rest found _ _ _ _ _ inductionHypothesis =>
      rw [reading_of_next?_eq_some found]
      have first : mark = .start := by
        rw [decide_eq_true inside] at found
        exact mark_of_next? overlaps found
      have later := inductionHypothesis (by simp [first, depthAfter])
      rintro other (_ | ⟨_, inRest⟩)
      · exact first
      · exact later other inRest

theorem unmarked_of_balanced (overlapping : ¬ markers.PrefixFree) {t : Text}
    (balanced : Balanced ((markers.reading 0 0 t).tokens.map Token.mark)) (mark : Mark) :
    ¬ markers.ofMark mark <:+: t := by
  cases found : markers.next? ((0 : Nat) ≠ 0) t with
  | none => exact unmarked_of_next?_eq_none found mark
  | some parts =>
      obtain ⟨before, first, rest⟩ := parts
      rw [reading_of_next?_eq_some found, List.map_cons] at balanced
      obtain ⟨inside, overlaps⟩ := overlap_of_not_prefixFree overlapping
      cases first with
      | stop => exact absurd balanced.nonnegative not_neverBelow_stop
      | start =>
          cases inside with
          | false =>
              -- outside all regions END goes first, so no region is ever entered
              have stops : Mark.start = .stop := mark_of_next? overlaps (by simpa using found)
              cases stops
          | true =>
              have entered : depthAfter .start 0 ≠ 0 := by simp [depthAfter]
              exact absurd balanced
                (not_balanced_of_all_start (marks_inside_of_overlap overlaps entered))

theorem Reads.eq_reading_of_balanced {t : Text} {other : Reading}
    (reads : markers.Reads 0 t other)
    (balanced : Balanced ((markers.reading 0 0 t).tokens.map Token.mark)) :
    other = markers.reading 0 0 t := by
  by_cases free : markers.PrefixFree
  · exact (markers.reads_reading 0 0 t).eq_of_prefixFree free reads
  · have unmarked := unmarked_of_balanced free balanced
    rw [reads.eq_of_unmarked unmarked, (markers.reads_reading 0 0 t).eq_of_unmarked unmarked]

end WarningSweep.Markers
