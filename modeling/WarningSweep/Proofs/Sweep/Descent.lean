import WarningSweep.Proofs.Buffer
import WarningSweep.Proofs.Sweep.Fault

/-!
# Reading a text region by region

A START opens a region, which is read up to its END together with the regions inside it; then the
reading goes on in what stands around it.  `Crosses` says what the reading of one region does, and
`Arrives` from which places the next marker is looked for.  The walk over the pieces of a text comes
through the same places, and a sweep ends as such a reading does.
-/

namespace WarningSweep

open Mark

namespace Sweep

/-- Where a reading stands: its offset in the text, the text from there on, and the state. -/
structure Place where
  offset : Nat
  rest : Text
  state : State

namespace Place

def outset (t : Text) : Place := ⟨0, t, {}⟩

/-- The place after the START that follows `before`.  Inside a region the warnings written so far
are kept before any more is written. -/
def enter (here : Place) (sweep : Sweep) (inside : Bool) (before rest : Text) : Place where
  offset := here.offset + before.length + sweep.markers.start.length
  rest := rest
  state :=
    let buffer := if inside then here.state.buffer.forget else here.state.buffer
    { here.state with
      buffer := buffer.append sweep.warningHead before
      last := some .start }

def leave (here : Place) (sweep : Sweep) (content rest : Text) : Place where
  offset := here.offset + content.length + sweep.markers.stop.length
  rest := rest
  state := sweep.leave here.state content

end Place

/-- Reading a region to its end while `depth` regions are open, itself included: from a place in it
to the place after its END.  A region inside is read only while an END is ahead, and if there is
room for it. -/
inductive Crosses (sweep : Sweep) : (depth : Nat) → Place → Place → Prop
  | leave {depth : Nat} {here : Place} {content rest : Text}
      (found : sweep.markers.next? true here.rest = some (content, .stop, rest)) :
      Crosses sweep depth here (here.leave sweep content rest)
  | enter {depth : Nat} {here between there : Place} {before rest : Text}
      (ahead : sweep.markers.stop <:+: here.rest) (fits : depth ≤ sweep.room)
      (found : sweep.markers.next? true here.rest = some (before, .start, rest))
      (inner : Crosses sweep (depth + 1) (here.enter sweep true before rest) between)
      (outer : Crosses sweep depth between there) :
      Crosses sweep depth here there

/-- The places from which the next marker of `t` is looked for, inside the regions whose STARTs
stand at the offsets `opened`, the innermost first. -/
inductive Arrives (sweep : Sweep) (t : Text) : (opened : List Nat) → Place → Prop
  | outset : Arrives sweep t [] (.outset t)
  | enter {opened : List Nat} {here : Place} {before rest : Text}
      (arrives : Arrives sweep t opened here)
      (ahead : opened ≠ [] → sweep.markers.stop <:+: here.rest)
      (fits : opened.length ≤ sweep.room)
      (found : sweep.markers.next? (!opened.isEmpty) here.rest = some (before, .start, rest)) :
      Arrives sweep t ((here.offset + before.length) :: opened)
        (here.enter sweep (!opened.isEmpty) before rest)
  | leave {start : Nat} {opened : List Nat} {here there : Place}
      (arrives : Arrives sweep t (start :: opened) here)
      (crosses : sweep.Crosses (opened.length + 1) here there) :
      Arrives sweep t opened there

variable {sweep : Sweep} {t : Text} {here there : Place}

theorem Crosses.stop_ahead {depth : Nat} (crosses : sweep.Crosses depth here there) :
    sweep.markers.stop <:+: here.rest := by
  cases crosses with
  | leave found =>
      rw [Markers.eq_of_next?_eq_some found]
      exact ⟨_, _, rfl⟩
  | enter ahead => exact ahead

theorem Crosses.length_rest_lt {depth : Nat} (crosses : sweep.Crosses depth here there) :
    there.rest.length < here.rest.length := by
  induction crosses with
  | leave found => exact Markers.length_lt_of_next?_eq_some found
  | enter ahead _ found _ _ innerShorter outerShorter =>
      have shorter := Markers.length_lt_of_next?_eq_some found
      exact outerShorter.trans (innerShorter.trans shorter)

/-- Nothing is kept by a START outside all regions, for nothing is pending there. -/
theorem Place.state_enter {inside : Bool}
    (clear : inside = false → here.state.buffer.pending = none) (before rest : Text) :
    (here.enter sweep inside before rest).state = sweep.enter here.state before := by
  cases inside with
  | true => rfl
  | false => simp [enter, Sweep.enter, Buffer.forget_of_pending_none (clear rfl)]

/-- Between two places, the first inside `depth` regions and the second inside `depth'`, the scan of
the text reads these pieces, and the walk takes a step with each of them. -/
structure Passes (sweep : Sweep) (depth : Nat) (here : Place) (pieces : List Piece) (depth' : Nat)
    (there : Place) : Prop where
  scan_eq : sweep.markers.scan depth here.offset here.rest =
    (pieces ++ (sweep.markers.scan depth' there.offset there.rest).1,
      (sweep.markers.scan depth' there.offset there.rest).2)
  state_eq : there.state = pieces.foldl sweep.step here.state
  offset_eq : there.offset = (pieces.getLast?.map (Piece.past sweep.markers)).getD here.offset

section

variable {depth depth' depth'' : Nat} {pieces others : List Piece} {before rest : Text}

theorem passes_refl (sweep : Sweep) (depth : Nat) (here : Place) :
    sweep.Passes depth here [] depth here :=
  ⟨rfl, rfl, rfl⟩

theorem Passes.trans {between : Place} (first : sweep.Passes depth here pieces depth' between)
    (second : sweep.Passes depth' between others depth'' there) :
    sweep.Passes depth here (pieces ++ others) depth'' there where
  scan_eq := by rw [first.scan_eq, second.scan_eq, List.append_assoc]
  state_eq := by rw [second.state_eq, first.state_eq, List.foldl_append]
  offset_eq := by
    rw [second.offset_eq, first.offset_eq, List.getLast?_append]
    cases others.getLast? <;> rfl

theorem Passes.cut {between : Place}
    (whole : sweep.Passes depth here (pieces ++ others) depth'' there)
    (first : sweep.Passes depth here pieces depth' between) :
    sweep.Passes depth' between others depth'' there where
  scan_eq := by
    have same := first.scan_eq.symm.trans whole.scan_eq
    rw [List.append_assoc, Prod.mk.injEq, List.append_cancel_left_eq] at same
    exact Prod.ext same.1 same.2
  state_eq := by rw [whole.state_eq, first.state_eq, List.foldl_append]
  offset_eq := by
    rw [whole.offset_eq, first.offset_eq, List.getLast?_append]
    cases others.getLast? <;> rfl

/-- Each piece leads further into the text, and none of them out of it. -/
theorem Passes.offset_bounds (passes : sweep.Passes depth here pieces depth' there) :
    (pieces ≠ [] → here.offset < there.offset) ∧
      there.offset ≤ here.offset + here.rest.length := by
  rcases List.eq_nil_or_concat' pieces with rfl | ⟨initial, last, rfl⟩
  · have same : there.offset = here.offset := passes.offset_eq
    exact ⟨fun nonempty => absurd rfl nonempty, by omega⟩
  · have member : last ∈ (sweep.markers.scan depth here.offset here.rest).1 := by
      rw [passes.scan_eq]
      simp
    have bounds := Markers.bounds_of_mem_scan member
    have reached : there.offset = last.past sweep.markers := by
      rw [passes.offset_eq, List.getLast?_concat]
      rfl
    have marker := List.length_pos_iff.mpr (sweep.markers.ofMark_ne_nil last.mark)
    have above : last.offset < last.past sweep.markers := Nat.lt_add_of_pos_right marker
    exact ⟨fun _ => by omega, by omega⟩

theorem Passes.pieces_eq (passes : sweep.Passes 0 (.outset t) pieces depth there) :
    (sweep.markers.pieces t).1 =
        pieces ++ (sweep.markers.scan depth there.offset there.rest).1 ∧
      there.state = sweep.walk pieces ∧ there.offset ≤ t.length := by
  have within := passes.offset_bounds.2
  rw [Place.outset, Nat.zero_add] at within
  exact ⟨congrArg Prod.fst passes.scan_eq, passes.state_eq, within⟩

theorem Passes.exists_passes_between {outset : Place}
    (first : sweep.Passes depth outset pieces depth' here)
    (second : sweep.Passes depth outset others depth'' there)
    (further : here.offset ≤ there.offset) :
    ∃ between, sweep.Passes depth' here between depth'' there := by
  have firstWithin : pieces <+: (sweep.markers.scan depth outset.offset outset.rest).1 :=
    ⟨_, congrArg Prod.fst first.scan_eq.symm⟩
  have secondWithin : others <+: (sweep.markers.scan depth outset.offset outset.rest).1 :=
    ⟨_, congrArg Prod.fst second.scan_eq.symm⟩
  rcases List.prefix_or_prefix_of_prefix firstWithin secondWithin with
    ⟨between, rfl⟩ | ⟨between, rfl⟩
  · exact ⟨between, second.cut first⟩
  · -- the first place is reached last and yet no further on, so nothing is read in between
    have back := first.cut second
    rcases between with _ | ⟨piece, between⟩
    · rw [List.append_nil] at first
      rw [← List.append_nil others] at second
      exact ⟨[], second.cut first⟩
    · have := back.offset_bounds.1 (by simp)
      omega

theorem passes_enter (clear : depth = 0 → here.state.buffer.pending = none)
    (found : sweep.markers.next? (depth ≠ 0) here.rest = some (before, .start, rest)) :
    sweep.Passes depth here
      [⟨before, .start, here.offset + before.length,
        Text.occurs sweep.markers.stop here.rest⟩] (depth + 1)
      (here.enter sweep (depth ≠ 0) before rest) where
  scan_eq := Markers.scan_of_next?_eq_some found
  state_eq := Place.state_enter (by simpa using clear) before rest
  offset_eq := rfl

theorem passes_leave {content : Text}
    (found : sweep.markers.next? true here.rest = some (content, .stop, rest)) :
    sweep.Passes (depth + 1) here
      [⟨content, .stop, here.offset + content.length,
        Text.occurs sweep.markers.stop here.rest⟩] depth (here.leave sweep content rest) where
  scan_eq := by
    have inside : sweep.markers.next? (depth + 1 ≠ 0) here.rest = some (content, .stop, rest) := by
      simpa using found
    exact Markers.scan_of_next?_eq_some inside
  state_eq := rfl
  offset_eq := rfl

end

theorem Crosses.exists_passes {depth level : Nat} (crosses : sweep.Crosses level here there)
    (level_eq : level = depth + 1) :
    ∃ inner closing, closing.mark = .stop ∧
      sweep.Passes (depth + 1) here (inner ++ [closing]) depth there := by
  induction crosses generalizing depth with
  | leave found => exact ⟨[], _, rfl, passes_leave found⟩
  | enter ahead _ found _ _ innerPasses outerPasses =>
      obtain ⟨inner, innerEnd, -, first⟩ := innerPasses (congrArg (· + 1) level_eq)
      obtain ⟨outer, closing, stops, second⟩ := outerPasses level_eq
      -- the scan tells inside from outside by the depth
      rw [← decide_eq_true (Nat.succ_ne_zero depth)] at found first
      have entered := passes_enter (fun outside => absurd outside depth.succ_ne_zero) found
      have whole := (entered.trans first).trans second
      rw [← List.append_assoc] at whole
      exact ⟨_, closing, stops, whole⟩

theorem Crosses.pending_eq_none {depth : Nat} (crosses : sweep.Crosses depth here there) :
    there.state.buffer.pending = none := by
  induction crosses with
  | leave => exact pending_leave _ _ _
  | enter _ _ _ _ _ _ outerClear => exact outerClear

theorem decide_length_ne_zero (opened : List Nat) :
    decide (opened.length ≠ 0) = !opened.isEmpty := by
  cases opened <;> simp

/-- The walk reads a text up to each place of the reading.  Outside all regions nothing is pending,
so there a START has nothing to keep. -/
theorem Arrives.exists_passes {opened : List Nat} (arrives : sweep.Arrives t opened here) :
    (∃ pieces, sweep.Passes 0 (.outset t) pieces opened.length here) ∧
      (opened = [] → here.state.buffer.pending = none) := by
  induction arrives with
  | outset => exact ⟨⟨[], passes_refl _ _ _⟩, fun _ => rfl⟩
  | @enter opened here before rest arrives ahead _ found inductionHypothesis =>
      obtain ⟨⟨pieces, read⟩, clear⟩ := inductionHypothesis
      rw [← decide_length_ne_zero] at found ⊢
      have entered := passes_enter (fun outside => clear (List.length_eq_zero_iff.mp outside)) found
      exact ⟨⟨_, read.trans entered⟩, by simp⟩
  | leave _ crosses inductionHypothesis =>
      obtain ⟨⟨pieces, read⟩, -⟩ := inductionHypothesis
      obtain ⟨inner, closing, -, crossed⟩ := crosses.exists_passes rfl
      exact ⟨⟨_, read.trans crossed⟩, fun _ => crosses.pending_eq_none⟩

section

open RegionFault

variable {start : Nat} {opened : List Nat} {before content rest : Text}

theorem find?_enter (ahead : opened ≠ [] → sweep.markers.stop <:+: here.rest)
    (fits : opened.length ≤ sweep.room)
    (found : sweep.markers.next? (!opened.isEmpty) here.rest = some (before, .start, rest)) :
    find? sweep.room opened (sweep.markers.scan opened.length here.offset here.rest).1 =
      find? sweep.room ((here.offset + before.length) :: opened)
        (sweep.markers.scan (opened.length + 1)
          (here.enter sweep (!opened.isEmpty) before rest).offset rest).1 := by
  rw [← decide_length_ne_zero] at found
  rw [Markers.scan_of_next?_eq_some found]
  cases opened with
  | nil => rfl
  | cons start outer =>
      rw [find?, Text.occurs_iff.mpr (ahead (by simp))]
      exact if_neg (Nat.not_lt.mpr fits)

theorem find?_leave
    (found : sweep.markers.next? true here.rest = some (content, .stop, rest)) :
    find? sweep.room (start :: opened)
        (sweep.markers.scan (opened.length + 1) here.offset here.rest).1 =
      find? sweep.room opened
        (sweep.markers.scan opened.length (here.leave sweep content rest).offset rest).1 := by
  have ahead := (@Crosses.leave sweep 0 _ _ _ found).stop_ahead
  rw [(passes_leave found).scan_eq, List.singleton_append, find?, Text.occurs_iff.mpr ahead]
  rfl

/-- The search for a fault passes over a region that is read to its end. -/
theorem Crosses.find?_eq {depth : Nat} (crosses : sweep.Crosses depth here there) (start : Nat)
    (opened : List Nat) (depth_eq : depth = opened.length + 1) :
    find? sweep.room (start :: opened)
        (sweep.markers.scan (opened.length + 1) here.offset here.rest).1 =
      find? sweep.room opened (sweep.markers.scan opened.length there.offset there.rest).1 := by
  induction crosses generalizing start opened with
  | leave found => exact find?_leave found
  | enter ahead fits found _ _ innerEq outerEq =>
      rw [depth_eq] at fits
      have entered := @find?_enter sweep _ (start :: opened) _ _ (fun _ => ahead) fits found
      exact entered.trans ((innerEq _ (start :: opened) (congrArg (· + 1) depth_eq)).trans
        (outerEq start opened depth_eq))

theorem Arrives.find?_eq (arrives : sweep.Arrives t opened here) :
    find? sweep.room [] (sweep.markers.pieces t).1 =
      find? sweep.room opened (sweep.markers.scan opened.length here.offset here.rest).1 := by
  induction arrives with
  | outset => rfl
  | enter _ ahead fits found inductionHypothesis =>
      exact inductionHypothesis.trans (find?_enter ahead fits found)
  | leave _ crosses inductionHypothesis =>
      exact inductionHypothesis.trans (crosses.find?_eq _ _ rfl)

end

/-- How the reading of `t` ends: outside all regions with no marker left, or there at an END, which
has nothing to close, or inside a region with no END ahead, or there at a START that there is no
room for. -/
inductive Ends (sweep : Sweep) (t : Text) : Except RegionFault Outcome → Prop
  | done {here : Place} (arrives : sweep.Arrives t [] here)
      (missing : sweep.markers.next? false here.rest = none) :
      Ends sweep t (.ok ⟨dropBlankLines
        (here.state.buffer.append sweep.warningHead here.rest).text, here.state.summary⟩)
  | unopened {here : Place} {content rest : Text} (arrives : sweep.Arrives t [] here)
      (found : sweep.markers.next? false here.rest = some (content, .stop, rest)) :
      Ends sweep t (.error (.markers (.unopened (here.offset + content.length))))
  | unclosed {start : Nat} {opened : List Nat} {here : Place}
      (arrives : sweep.Arrives t (start :: opened) here)
      (missing : ¬ sweep.markers.stop <:+: here.rest) :
      Ends sweep t (.error (.markers (.unclosed start)))
  | tooDeep {opened : List Nat} {here : Place} {before rest : Text}
      (arrives : sweep.Arrives t opened here) (full : sweep.room < opened.length)
      (ahead : sweep.markers.stop <:+: here.rest)
      (found : sweep.markers.next? true here.rest = some (before, .start, rest)) :
      Ends sweep t (.error (.tooDeep (here.offset + before.length)))

theorem Ends.run_eq {result : Except RegionFault Outcome} (ends : sweep.Ends t result) :
    sweep.run t = result := by
  cases ends with
  | @done here arrives missing =>
      obtain ⟨⟨pieces, read⟩, -⟩ := arrives.exists_passes
      have nothing : sweep.markers.scan 0 here.offset here.rest = ([], here.rest) :=
        Markers.scan_of_next?_eq_none (by simpa using missing)
      have scanned : sweep.markers.pieces t = (pieces, here.rest) := by
        have split := read.scan_eq
        rw [List.length_nil, nothing, List.append_nil] at split
        exact split
      have paired := arrives.find?_eq
      rw [List.length_nil, nothing] at paired
      rw [run_eq_ok_iff, scanned, leftover, read.state_eq]
      exact ⟨by rwa [scanned] at paired, rfl, rfl⟩
  | @unopened here content rest arrives found =>
      have outside : sweep.markers.next? ((0 : Nat) ≠ 0) here.rest =
          some (content, .stop, rest) := by
        simpa using found
      rw [run_eq_error_iff, arrives.find?_eq, List.length_nil,
        Markers.scan_of_next?_eq_some outside]
      rfl
  | @unclosed start opened here arrives missing =>
      rw [run_eq_error_iff, arrives.find?_eq]
      cases found : sweep.markers.next? ((start :: opened).length ≠ 0) here.rest with
      | none =>
          rw [Markers.scan_of_next?_eq_none found]
          rfl
      | some parts =>
          obtain ⟨before, mark, rest⟩ := parts
          have noneAhead : Text.occurs sweep.markers.stop here.rest = false := by
            rw [← Bool.not_eq_true, Text.occurs_iff]
            exact missing
          rw [Markers.scan_of_next?_eq_some found, RegionFault.find?, noneAhead]
          rfl
  | @tooDeep opened here before rest arrives full ahead found =>
      cases opened with
      | nil => exact absurd full (Nat.not_lt_zero _)
      | cons start outer =>
          have inside : sweep.markers.next? ((start :: outer).length ≠ 0) here.rest =
              some (before, .start, rest) := by
            simpa using found
          rw [run_eq_error_iff, arrives.find?_eq, Markers.scan_of_next?_eq_some inside,
            RegionFault.find?, Text.occurs_iff.mpr ahead]
          exact if_pos full

/-- A region that was entered is read to its end, unless the reading ends in it. -/
theorem Arrives.crosses_or_ends {start : Nat} {opened : List Nat} {here : Place}
    (arrives : sweep.Arrives t (start :: opened) here) :
    (∃ there, sweep.Crosses (opened.length + 1) here there) ∨ ∃ result, sweep.Ends t result := by
  by_cases ahead : sweep.markers.stop <:+: here.rest
  · cases found : sweep.markers.next? true here.rest with
    | none => exact absurd ahead (Markers.unmarked_of_next?_eq_none found .stop)
    | some parts =>
        obtain ⟨before, mark, rest⟩ := parts
        have shorter := Markers.length_lt_of_next?_eq_some found
        cases mark with
        | stop => exact .inl ⟨_, .leave found⟩
        | start =>
            by_cases full : sweep.room < (start :: opened).length
            · exact .inr ⟨_, .tooDeep arrives full ahead found⟩
            have fits : (start :: opened).length ≤ sweep.room := Nat.not_lt.mp full
            have entered := arrives.enter (fun _ => ahead) fits found
            rcases entered.crosses_or_ends with ⟨between, inner⟩ | ends
            · have innerShorter : between.rest.length < rest.length := inner.length_rest_lt
              rcases (entered.leave inner).crosses_or_ends with ⟨there, outer⟩ | ends
              · exact .inl ⟨there, .enter ahead fits found inner outer⟩
              · exact .inr ends
            · exact .inr ends
  · exact .inr ⟨_, .unclosed arrives ahead⟩
termination_by here.rest.length
decreasing_by
  · exact shorter
  · exact innerShorter.trans shorter

theorem Arrives.exists_ends {here : Place} (arrives : sweep.Arrives t [] here) :
    ∃ result, sweep.Ends t result := by
  cases found : sweep.markers.next? false here.rest with
  | none => exact ⟨_, .done arrives found⟩
  | some parts =>
      obtain ⟨before, mark, rest⟩ := parts
      have shorter := Markers.length_lt_of_next?_eq_some found
      cases mark with
      | stop => exact ⟨_, .unopened arrives found⟩
      | start =>
          have entered := arrives.enter (fun inside => absurd rfl inside) (Nat.zero_le _) found
          rcases entered.crosses_or_ends with ⟨there, crosses⟩ | ends
          · have innerShorter : there.rest.length < rest.length := crosses.length_rest_lt
            exact (entered.leave crosses).exists_ends
          · exact ends
termination_by here.rest.length
decreasing_by exact innerShorter.trans shorter

/-- A sweep ends as the reading region by region does: both succeed on the same texts with the same
outcome, and refuse all others for the same reason. -/
theorem run_eq_iff_ends {result : Except RegionFault Outcome} :
    sweep.run t = result ↔ sweep.Ends t result := by
  constructor
  · rintro rfl
    have begins : sweep.Arrives t [] (.outset t) := .outset
    obtain ⟨result, ends⟩ := begins.exists_ends
    rwa [ends.run_eq]
  · exact Ends.run_eq

end Sweep

end WarningSweep
