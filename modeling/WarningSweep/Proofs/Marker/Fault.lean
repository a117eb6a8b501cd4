import WarningSweep.Proofs.Marker.Balance

/-!
# What ends the reading of regions

The search for a fault reads the pieces of a text once, with the STARTs that are open at hand.  It
finds none exactly in a balanced text whose regions there is room for.  Otherwise it finds what is
met first: a START that is too deep, an END that takes the depth below zero, or a START that nothing
closes.
-/

namespace WarningSweep

open Mark

/-- Where no END is ahead, only STARTs follow, and no END is ahead of them either. -/
def StopsAnnounced : List Piece → Prop
  | [] => True
  | piece :: rest =>
      (piece.stopAhead = false →
        ∀ later ∈ piece :: rest, later.mark = .start ∧ later.stopAhead = false) ∧
        StopsAnnounced rest

namespace Markers

variable {markers : Markers}

theorem stop_infix_of_mem_scan {depth offset : Nat} {t : Text} {piece : Piece}
    (member : piece ∈ (markers.scan depth offset t).1) (stops : piece.mark = .stop) :
    markers.stop <:+: t := by
  induction depth, offset, t using Markers.scan.induct markers with
  | case1 depth offset t missing =>
      rw [scan_of_next?_eq_none missing] at member
      simp at member
  | case2 depth offset t before mark rest found _ _ _ _ _ inductionHypothesis =>
      have cut := eq_of_next?_eq_some found
      rw [scan_of_next?_eq_some found] at member
      rcases List.mem_cons.mp member with rfl | later
      · obtain rfl : mark = .stop := stops
        exact ⟨before, rest, cut.symm⟩
      · have inRest := inductionHypothesis later
        rw [cut]
        exact inRest.trans (List.suffix_append _ _).isInfix

/-- What is ahead of a piece is the text from the marker before it on. -/
theorem stopAhead_of_mem_scan {depth offset : Nat} {t : Text} {piece : Piece}
    (member : piece ∈ (markers.scan depth offset t).1) :
    piece.stopAhead =
      Text.occurs markers.stop (t.drop (piece.offset - piece.before.length - offset)) := by
  induction depth, offset, t using Markers.scan.induct markers with
  | case1 depth offset t missing =>
      rw [scan_of_next?_eq_none missing] at member
      simp at member
  | case2 depth offset t before mark rest found _ _ _ _ _ inductionHypothesis =>
      have cut := eq_of_next?_eq_some found
      rw [scan_of_next?_eq_some found] at member
      rcases List.mem_cons.mp member with rfl | later
      · simp
      · have bounds := (bounds_of_mem_scan later).1
        have place : piece.offset - piece.before.length - offset =
            (before ++ markers.ofMark mark).length +
              (piece.offset - piece.before.length -
                (offset + before.length + (markers.ofMark mark).length)) := by
          rw [List.length_append]
          omega
        rw [inductionHypothesis later, cut, place, List.drop_length_add_append]

theorem stopsAnnounced_scan (markers : Markers) (depth offset : Nat) (t : Text) :
    StopsAnnounced (markers.scan depth offset t).1 := by
  induction depth, offset, t using Markers.scan.induct markers with
  | case1 depth offset t missing =>
      rw [scan_of_next?_eq_none missing]
      trivial
  | case2 depth offset t before mark rest found _ _ _ _ _ inductionHypothesis =>
      have shape : markers.scan depth offset t = _ := scan_of_next?_eq_some found
      rw [shape]
      refine ⟨?_, inductionHypothesis⟩
      intro noneAhead later member
      have inScan : later ∈ (markers.scan depth offset t).1 := by
        rw [shape]
        exact member
      have missing : ¬ markers.stop <:+: t := by
        rw [← Text.occurs_iff, Bool.not_eq_true]
        exact noneAhead
      constructor
      · cases kind : later.mark with
        | start => rfl
        | stop => exact absurd (stop_infix_of_mem_scan inScan kind) missing
      · rw [stopAhead_of_mem_scan inScan, ← Bool.not_eq_true, Text.occurs_iff]
        exact fun ahead => missing (ahead.trans (List.drop_suffix _ _).isInfix)

end Markers

namespace RegionFault

variable {room : Nat} {opened : List Nat} {pieces : List Piece}

theorem neverBelow_of_noneAhead {piece : Piece} {rest : List Piece}
    (announced : StopsAnnounced (piece :: rest)) (noneAhead : piece.stopAhead = false) :
    NeverBelow 0 ((piece :: rest).map Piece.mark) := by
  apply neverBelow_of_all_start
  intro mark member
  obtain ⟨later, inPieces, rfl⟩ := List.mem_map.mp member
  exact (announced.1 noneAhead later inPieces).1

/-- All that the search does with one piece. -/
theorem find?_cons_cases (room : Nat) (piece : Piece) (rest : List Piece) (opened : List Nat) :
    (piece.mark = .start ∧ opened.length ≤ room ∧
      find? room opened (piece :: rest) = find? room (piece.offset :: opened) rest) ∨
    (piece.mark = .start ∧ room < opened.length ∧ piece.stopAhead = true ∧
      find? room opened (piece :: rest) = some (.tooDeep piece.offset)) ∨
    (piece.mark = .stop ∧ opened = [] ∧
      find? room opened (piece :: rest) = some (.markers (.unopened piece.offset))) ∨
    (∃ start outer, piece.mark = .stop ∧ opened = start :: outer ∧
      find? room opened (piece :: rest) = find? room outer rest) ∨
    ∃ start outer, opened = start :: outer ∧ piece.stopAhead = false ∧
      find? room opened (piece :: rest) = some (.markers (.unclosed start)) := by
  cases opened with
  | nil =>
      cases kind : piece.mark with
      | start => exact .inl ⟨rfl, Nat.zero_le _, by simp [find?, kind]⟩
      | stop => exact .inr (.inr (.inl ⟨rfl, rfl, by simp [find?, kind]⟩))
  | cons start outer =>
      cases ahead : piece.stopAhead with
      | false => exact .inr (.inr (.inr (.inr ⟨start, outer, rfl, rfl, by simp [find?, ahead]⟩)))
      | true =>
          cases kind : piece.mark with
          | start =>
              by_cases full : room < (start :: outer).length
              · exact .inr (.inl ⟨rfl, full, rfl, by simp only [find?, kind, ahead, full]; rfl⟩)
              · refine .inl ⟨rfl, Nat.not_lt.mp full, ?_⟩
                simp only [find?, kind, ahead, full]
                rfl
          | stop =>
              exact .inr (.inr (.inr (.inl ⟨start, outer, rfl, rfl, by simp [find?, kind, ahead]⟩)))

theorem find?_eq_none_iff (announced : StopsAnnounced pieces) (fits : opened.length ≤ room + 1) :
    find? room opened pieces = none ↔
      NeverBelow (-opened.length) (pieces.map Piece.mark) ∧
        NeverAbove ((room + 1 : Nat) - opened.length) (pieces.map Piece.mark) ∧
        depth (pieces.map Piece.mark) = -opened.length := by
  induction pieces generalizing opened with
  | nil =>
      cases opened with
      | nil =>
          simp only [find?, List.length_nil, List.map_nil, neverBelow_nil, neverAbove_nil,
            depth_nil, true_iff]
          omega
      | cons start outer =>
          simp only [find?, List.map_nil, depth_nil, List.length_cons, reduceCtorEq, false_iff,
            not_and]
          omega
  | cons piece rest inductionHypothesis =>
      rcases find?_cons_cases room piece rest opened with ⟨starts, within, next⟩ |
        ⟨starts, full, -, next⟩ | ⟨stops, rfl, next⟩ | ⟨start, outer, stops, rfl, next⟩ |
        ⟨start, outer, rfl, noneAhead, next⟩
      · rw [next, inductionHypothesis announced.2 (by simpa using within), List.map_cons, starts,
          neverBelow_start_cons, neverAbove_start_cons fits, depth_cons, weight, List.length_cons]
        exact and_congr Iff.rfl (and_congr Iff.rfl (by omega))
      · rw [next, List.map_cons, starts, neverAbove_start_cons fits]
        simp only [reduceCtorEq, false_iff]
        rintro ⟨-, below, -⟩
        have bound := below.ceiling_nonneg
        omega
      · rw [next, List.map_cons, stops]
        simp only [reduceCtorEq, false_iff, not_and]
        exact fun above => absurd above not_neverBelow_stop
      · have inner : outer.length < room + 1 := fits
        rw [next, inductionHypothesis announced.2 (Nat.le_of_lt inner), List.map_cons, stops,
          List.length_cons, neverBelow_stop_cons, neverAbove_stop_cons inner, depth_cons, weight]
        exact and_congr Iff.rfl (and_congr Iff.rfl (by omega))
      · have bound := neverBelow_of_noneAhead announced noneAhead _ List.prefix_rfl
        rw [next]
        simp only [List.length_cons, reduceCtorEq, false_iff, not_and]
        omega

end RegionFault

end WarningSweep
