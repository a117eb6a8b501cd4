import Mathlib.SetTheory.Cardinal.Finite
import WarningSweep.Proofs.Marker.Balance

/-!
# The regions of a sequence of markers

While the depth stays at zero or above, each END closes one region: the one whose START is the last
that is still open.  So the regions of a sequence can be listed by their ENDs, one at a time.
-/

namespace WarningSweep

namespace Mark

theorem neverBelow_append {floor : Int} {first second : List Mark} :
    NeverBelow floor (first ++ second) ↔
      NeverBelow floor first ∧ NeverBelow (floor - depth first) second := by
  induction first generalizing floor with
  | nil =>
      simp only [List.nil_append, neverBelow_nil, depth_nil, Int.sub_zero]
      exact ⟨fun above => ⟨above.floor_nonpos, above⟩, And.right⟩
  | cons mark first inductionHypothesis =>
      rw [List.cons_append, neverBelow_cons, inductionHypothesis, neverBelow_cons, depth_cons,
        and_assoc, Int.sub_sub]

theorem NeverBelow.mono {floor lower : Int} {marks : List Mark} (above : NeverBelow floor marks)
    (less : lower ≤ floor) : NeverBelow lower marks :=
  fun front within => Int.le_trans less (above front within)

/-- A balanced sequence stays balanced when a region with balanced content follows. -/
theorem Balanced.enclose {first second : List Mark} (firstBalanced : Balanced first)
    (secondBalanced : Balanced second) : Balanced (first ++ .start :: (second ++ [.stop])) where
  nonnegative := by
    have inside : NeverBelow (-1) second := secondBalanced.nonnegative.mono (by decide)
    simp [neverBelow_append, firstBalanced.nonnegative, firstBalanced.depth_eq_zero, weight, inside,
      secondBalanced.depth_eq_zero]
  depth_eq_zero := by
    simp [firstBalanced.depth_eq_zero, secondBalanced.depth_eq_zero, weight]

/-- So many regions, each of them but the first inside the one before. -/
def nested (count : Nat) : List Mark := List.replicate count .start ++ List.replicate count .stop

theorem depth_eq_count (marks : List Mark) :
    depth marks = (marks.count .start : Int) - marks.count .stop := by
  induction marks with
  | nil => rfl
  | cons mark marks inductionHypothesis =>
      rw [depth_cons, inductionHypothesis]
      cases mark with
      | start =>
          simp only [weight, List.count_cons_self, List.count_cons_of_ne (by decide : start ≠ stop)]
          omega
      | stop =>
          simp only [weight, List.count_cons_self, List.count_cons_of_ne (by decide : stop ≠ start)]
          omega

theorem Balanced.getLast?_eq {marks : List Mark} (balanced : Balanced marks)
    (nonempty : marks ≠ []) : marks.getLast? = some .stop := by
  rcases List.eq_nil_or_concat' marks with rfl | ⟨initial, last, rfl⟩
  · exact absurd rfl nonempty
  · cases last with
    | stop => simp
    | start =>
        have above := balanced.nonnegative initial (List.prefix_append _ _)
        have total := balanced.depth_eq_zero
        simp only [depth_append, depth_cons, depth_nil, weight] at total
        omega

end Mark

open Mark

theorem exists_opening {tokens : List Token} (above : NeverBelow 0 (tokens.map Token.mark))
    (inside : 0 < depth (tokens.map Token.mark)) :
    ∃ front opening inner, tokens = front ++ opening :: inner ∧ opening.mark = .start ∧
      Balanced (inner.map Token.mark) := by
  rcases List.eq_nil_or_concat' tokens with empty | ⟨initial, last, split⟩
  · simp [empty] at inside
  · rw [split, List.map_append] at above inside
    rw [neverBelow_append] at above
    cases kind : last.mark with
    | start => exact ⟨initial, last, [], split, kind, by decide⟩
    | stop =>
        -- the END closes the START that was open last, so the one before that is open now
        simp only [List.map_singleton, depth_append, depth_cons, depth_nil, kind, weight] at inside
        obtain ⟨outer, opening, inner, shape, opens, balanced⟩ :=
          exists_opening above.1 (by omega)
        have outerAbove := above.1
        simp only [shape, List.map_append, List.map_cons, depth_append, depth_cons, opens, weight,
          balanced.depth_eq_zero, neverBelow_append] at inside outerAbove
        obtain ⟨front, first, before, outerShape, starts, beforeBalanced⟩ :=
          exists_opening outerAbove.1 (by omega)
        refine ⟨front, first, before ++ opening :: (inner ++ [last]), ?_, starts, ?_⟩
        · rw [split, shape, outerShape]
          simp
        · simpa [opens, kind] using beforeBalanced.enclose balanced
termination_by tokens.length
decreasing_by
  · simp [split]
  · simp [split, shape]

/-- The START that an END closes is the only one with balanced markers in between. -/
theorem opening_unique {front front' inner inner' : List Token} {opening opening' : Token}
    (same : front ++ opening :: inner = front' ++ opening' :: inner')
    (balanced : Balanced (inner.map Token.mark)) (opens' : opening'.mark = .start)
    (balanced' : Balanced (inner'.map Token.mark)) : front'.length ≤ front.length := by
  apply Nat.le_of_not_lt
  intro later
  obtain ⟨extra, rfl⟩ := List.prefix_of_prefix_length_le (List.prefix_append front _)
    (same ▸ List.prefix_append front' _) later.le
  rw [List.append_assoc, List.append_cancel_left_eq] at same
  rcases extra with _ | ⟨first, between⟩
  · simp at later
  · rw [List.cons_append] at same
    obtain ⟨-, rfl⟩ := List.cons.inj same
    have above := balanced.nonnegative (between.map Token.mark) (by simp)
    have total := balanced.depth_eq_zero
    simp only [List.map_append, List.map_cons, depth_append, depth_cons, opens', weight,
      balanced'.depth_eq_zero] at total
    omega

namespace Region

variable {tokens : List Token}

def extend (region : Region tokens) (token : Token) : Region (tokens ++ [token]) where
  front := region.front
  opening := region.opening
  inner := region.inner
  closing := region.closing
  back := region.back ++ [token]
  tokens_eq := by
    have split := congrArg (· ++ [token]) region.tokens_eq
    simpa using split
  opens := region.opens
  closes := region.closes
  matched := region.matched

theorem extend_injective (token : Token) :
    Function.Injective fun region : Region tokens => region.extend token := by
  rintro ⟨front, opening, inner, closing, back, _⟩ ⟨front', opening', inner', closing', back', _⟩
    same
  simp only [extend, mk.injEq, List.append_cancel_right_eq] at same
  simp only [mk.injEq]
  exact same

/-- All regions after one more marker: those before, and one that the marker ends. -/
theorem eq_extend_or_back_eq_nil {token : Token} (region : Region (tokens ++ [token])) :
    (∃ before : Region tokens, region = before.extend token) ∨
      region.back = [] ∧ region.closing = token ∧
        tokens = region.front ++ region.opening :: region.inner := by
  obtain ⟨front, opening, inner, closing, back, split, opens, closes, matched⟩ := region
  rcases List.eq_nil_or_concat' back with rfl | ⟨initial, last, rfl⟩
  · obtain ⟨shape, same⟩ := List.append_inj' split rfl
    exact .inr ⟨rfl, by simpa using same.symm, shape⟩
  · rw [← List.cons_append, ← List.append_assoc] at split
    obtain ⟨shape, same⟩ := List.append_inj' split rfl
    obtain rfl : token = last := by simpa using same
    exact .inl ⟨⟨front, opening, inner, closing, initial, shape, opens, closes, matched⟩, rfl⟩

theorem eq_of_back_eq_nil {token : Token} {region other : Region (tokens ++ [token])}
    (last : region.back = []) (otherLast : other.back = []) : region = other := by
  obtain ⟨front, opening, inner, closing, back, split, opens, closes, matched⟩ := region
  obtain ⟨front', opening', inner', closing', back', split', opens', closes', matched'⟩ := other
  obtain rfl : back = [] := last
  obtain rfl : back' = [] := otherLast
  obtain ⟨shape, same⟩ := List.append_inj' split rfl
  obtain ⟨shape', same'⟩ := List.append_inj' split' rfl
  have sameLength := Nat.le_antisymm
    (opening_unique (shape'.symm.trans shape) matched' opens matched)
    (opening_unique (shape.symm.trans shape') matched opens' matched')
  obtain ⟨rfl, rest⟩ := List.append_inj (shape.symm.trans shape') sameLength
  obtain ⟨rfl, rfl⟩ := List.cons.inj rest
  obtain rfl : closing = closing' := by simpa using same.symm.trans same'
  rfl

theorem exists_back_eq_nil {token : Token} (stops : token.mark = .stop)
    (above : NeverBelow 0 ((tokens ++ [token]).map Token.mark)) :
    ∃ region : Region (tokens ++ [token]), region.back = [] := by
  rw [List.map_append, neverBelow_append] at above
  have inside : 0 < depth (tokens.map Token.mark) := by
    have bound := above.2 [.stop] (by simp [stops])
    simp only [depth_cons, depth_nil, weight] at bound
    omega
  obtain ⟨front, opening, inner, rfl, opens, balanced⟩ := exists_opening above.1 inside
  exact ⟨⟨front, opening, inner, token, [], rfl, opens, stops, balanced⟩, rfl⟩

end Region

/-- Every region once. -/
structure Lists {tokens : List Token} (regions : List (Region tokens)) : Prop where
  nodup : regions.Nodup
  complete : ∀ region, region ∈ regions

namespace Lists

variable {tokens : List Token} {regions : List (Region tokens)}

theorem nil : Lists ([] : List (Region [])) where
  nodup := List.nodup_nil
  complete := by
    intro region
    have size := congrArg List.length region.tokens_eq
    simp at size

theorem start (lists : Lists regions) {token : Token} (starts : token.mark = .start) :
    Lists (regions.map fun region => region.extend token) where
  nodup := lists.nodup.map (Region.extend_injective token)
  complete := by
    intro region
    rcases region.eq_extend_or_back_eq_nil with ⟨before, rfl⟩ | ⟨-, ends, -⟩
    · exact List.mem_map_of_mem (lists.complete before)
    · have closes := region.closes
      rw [ends, starts] at closes
      cases closes

theorem stop (lists : Lists regions) {token : Token} {last : Region (tokens ++ [token])}
    (ends : last.back = []) :
    Lists (last :: regions.map fun region => region.extend token) where
  nodup := by
    refine List.nodup_cons.mpr ⟨?_, lists.nodup.map (Region.extend_injective token)⟩
    intro member
    obtain ⟨before, -, rfl⟩ := List.mem_map.mp member
    simp [Region.extend] at ends
  complete := by
    intro region
    rcases region.eq_extend_or_back_eq_nil with ⟨before, rfl⟩ | ⟨final, -, -⟩
    · exact List.mem_cons_of_mem _ (List.mem_map_of_mem (lists.complete before))
    · rw [Region.eq_of_back_eq_nil final ends]
      exact List.mem_cons_self

theorem card_eq (lists : Lists regions) (test : Region tokens → Bool) :
    Nat.card { region : Region tokens // test region = true } = regions.countP test := by
  classical
  rw [Nat.subtype_card (regions.filter test).toFinset (by simp [lists.complete]),
    List.toFinset_card_of_nodup (lists.nodup.filter test), List.countP_eq_length_filter]

theorem card_region (lists : Lists regions) : Nat.card (Region tokens) = regions.length := by
  have all := lists.card_eq fun _ => true
  rwa [Nat.card_congr (Equiv.subtypeUnivEquiv fun _ => rfl), List.countP_true] at all

end Lists

end WarningSweep
