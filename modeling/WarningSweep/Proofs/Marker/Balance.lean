import Mathlib.Data.List.Infix
import WarningSweep.Proofs.Marker.Reading

/-!
# How markers pair up

The depth of a sequence of markers counts a START up and an END down.  A sequence is balanced when
its depth never goes below zero and ends there.  A region is a START and an END with a balanced
sequence between them.
-/

namespace WarningSweep

namespace Mark

def weight : Mark → Int
  | .start => 1
  | .stop => -1

/-- How many more regions start than end. -/
def depth : List Mark → Int
  | [] => 0
  | mark :: marks => mark.weight + depth marks

@[simp]
theorem depth_nil : depth [] = 0 := rfl

@[simp]
theorem depth_cons (mark : Mark) (marks : List Mark) :
    depth (mark :: marks) = mark.weight + depth marks := rfl

@[simp]
theorem depth_append (first second : List Mark) :
    depth (first ++ second) = depth first + depth second := by
  induction first with
  | nil => simp
  | cons mark first inductionHypothesis =>
      rw [List.cons_append, depth_cons, inductionHypothesis, depth_cons, Int.add_assoc]

/-- The depth is at least `floor` after each of the markers and before the first. -/
def NeverBelow (floor : Int) (marks : List Mark) : Prop :=
  ∀ front, front <+: marks → floor ≤ depth front

instance (floor : Int) (marks : List Mark) : Decidable (NeverBelow floor marks) :=
  decidable_of_iff (∀ front ∈ marks.inits, floor ≤ depth front) (by simp [NeverBelow])

@[simp]
theorem neverBelow_nil {floor : Int} : NeverBelow floor [] ↔ floor ≤ 0 := by
  simp [NeverBelow]

@[simp]
theorem neverBelow_cons {floor : Int} {mark : Mark} {marks : List Mark} :
    NeverBelow floor (mark :: marks) ↔
      floor ≤ 0 ∧ NeverBelow (floor - mark.weight) marks := by
  constructor
  · intro above
    refine ⟨above [] List.nil_prefix, ?_⟩
    intro front within
    have bound := above (mark :: front) (List.cons_prefix_cons.mpr ⟨rfl, within⟩)
    rw [depth_cons] at bound
    omega
  · rintro ⟨atStart, above⟩ front within
    cases front with
    | nil => simpa using atStart
    | cons first rest =>
        obtain ⟨rfl, inRest⟩ := List.cons_prefix_cons.mp within
        have bound := above rest inRest
        rw [depth_cons]
        omega

theorem neverBelow_start_cons {level : Nat} {marks : List Mark} :
    NeverBelow (-level) (.start :: marks) ↔ NeverBelow (-(level + 1 : Nat)) marks := by
  have floor : -(level : Int) - weight .start = -(level + 1 : Nat) := by
    simp only [weight]
    omega
  rw [neverBelow_cons, floor, and_iff_right (by omega)]

theorem neverBelow_stop_cons {level : Nat} {marks : List Mark} :
    NeverBelow (-(level + 1 : Nat)) (.stop :: marks) ↔ NeverBelow (-level) marks := by
  have floor : -((level + 1 : Nat) : Int) - weight .stop = -level := by
    simp only [weight]
    omega
  rw [neverBelow_cons, floor, and_iff_right (by omega)]

theorem not_neverBelow_stop {marks : List Mark} :
    ¬ NeverBelow (-(0 : Nat)) (.stop :: marks) := by
  intro above
  have bound := above [.stop] (by simp)
  simp [weight] at bound

theorem NeverBelow.floor_nonpos {floor : Int} {marks : List Mark}
    (above : NeverBelow floor marks) : floor ≤ 0 :=
  above [] List.nil_prefix

theorem neverBelow_of_all_start {marks : List Mark} (starts : ∀ mark ∈ marks, mark = .start) :
    NeverBelow 0 marks := by
  induction marks with
  | nil => simp
  | cons mark marks inductionHypothesis =>
      obtain rfl := starts mark List.mem_cons_self
      have later := inductionHypothesis fun other inRest =>
        starts other (List.mem_cons_of_mem _ inRest)
      refine neverBelow_cons.mpr ⟨Int.le_refl 0, ?_⟩
      intro front within
      have bound := later front within
      simp only [weight]
      omega

/-- The depth is at most `ceiling` after each of the markers and before the first. -/
def NeverAbove (ceiling : Int) (marks : List Mark) : Prop :=
  ∀ front, front <+: marks → depth front ≤ ceiling

instance (ceiling : Int) (marks : List Mark) : Decidable (NeverAbove ceiling marks) :=
  decidable_of_iff (∀ front ∈ marks.inits, depth front ≤ ceiling) (by simp [NeverAbove])

@[simp]
theorem neverAbove_nil {ceiling : Int} : NeverAbove ceiling [] ↔ 0 ≤ ceiling := by
  simp [NeverAbove]

@[simp]
theorem neverAbove_cons {ceiling : Int} {mark : Mark} {marks : List Mark} :
    NeverAbove ceiling (mark :: marks) ↔
      0 ≤ ceiling ∧ NeverAbove (ceiling - mark.weight) marks := by
  constructor
  · intro below
    refine ⟨below [] List.nil_prefix, ?_⟩
    intro front within
    have bound := below (mark :: front) (List.cons_prefix_cons.mpr ⟨rfl, within⟩)
    rw [depth_cons] at bound
    omega
  · rintro ⟨atStart, below⟩ front within
    cases front with
    | nil => simpa using atStart
    | cons first rest =>
        obtain ⟨rfl, inRest⟩ := List.cons_prefix_cons.mp within
        have bound := below rest inRest
        rw [depth_cons]
        omega

theorem neverAbove_start_cons {ceiling level : Nat} {marks : List Mark} (fits : level ≤ ceiling) :
    NeverAbove (ceiling - level) (.start :: marks) ↔
      NeverAbove (ceiling - (level + 1 : Nat)) marks := by
  have left : (ceiling : Int) - level - weight .start = ceiling - (level + 1 : Nat) := by
    simp only [weight]
    omega
  rw [neverAbove_cons, left, and_iff_right (by omega)]

theorem neverAbove_stop_cons {ceiling level : Nat} {marks : List Mark} (fits : level < ceiling) :
    NeverAbove (ceiling - (level + 1 : Nat)) (.stop :: marks) ↔
      NeverAbove (ceiling - level) marks := by
  have left : (ceiling : Int) - (level + 1 : Nat) - weight .stop = ceiling - level := by
    simp only [weight]
    omega
  rw [neverAbove_cons, left, and_iff_right (by omega)]

theorem NeverAbove.ceiling_nonneg {ceiling : Int} {marks : List Mark}
    (below : NeverAbove ceiling marks) : 0 ≤ ceiling :=
  below [] List.nil_prefix

/-- Read inside `level` regions, these markers take all the room there is: one region lies in `room`
others at the end, and none lies deeper before. -/
structure Fills (room level : Nat) (marks : List Mark) : Prop where
  neverBelow : NeverBelow (-level) marks
  neverAbove : NeverAbove ((room + 1 : Nat) - level) marks
  depth_eq : depth marks = (room + 1 : Nat) - level

/-- The depth never goes below zero and ends there. -/
structure Balanced (marks : List Mark) : Prop where
  nonnegative : NeverBelow 0 marks
  depth_eq_zero : depth marks = 0

instance (marks : List Mark) : Decidable (Balanced marks) :=
  decidable_of_iff (NeverBelow 0 marks ∧ depth marks = 0)
    ⟨fun both => ⟨both.1, both.2⟩, fun balanced => ⟨balanced.1, balanced.2⟩⟩

theorem not_balanced_of_all_start {marks : List Mark} (starts : ∀ mark ∈ marks, mark = .start) :
    ¬ Balanced (.start :: marks) := by
  intro balanced
  have bound := neverBelow_of_all_start starts marks List.prefix_rfl
  have total := balanced.depth_eq_zero
  rw [depth_cons, weight] at total
  omega

end Mark

open Mark

/-- A START of these markers and the END that closes it. -/
structure Region (tokens : List Token) where
  front : List Token
  opening : Token
  inner : List Token
  closing : Token
  back : List Token
  tokens_eq : tokens = front ++ opening :: inner ++ closing :: back
  opens : opening.mark = .start
  closes : closing.mark = .stop
  matched : Balanced (inner.map Token.mark)

def Region.IsLeaf {tokens : List Token} (region : Region tokens) : Prop :=
  IsEmpty (Region region.inner)

/-- A START at this offset that no END closes. -/
def Unmatched (tokens : List Token) (offset : Nat) : Prop :=
  ∃ front opening after, tokens = front ++ opening :: after ∧ opening.mark = .start ∧
    opening.offset = offset ∧ ∀ region : Region tokens, region.front.length ≠ front.length

/-- Between a START and any later END there are two neighbours of that kind. -/
theorem exists_adjacent {opening closing : Token} {rest : List Token}
    (opens : opening.mark = .start) (closes : closing.mark = .stop) (later : closing ∈ rest) :
    ∃ front first second back, opening :: rest = front ++ first :: second :: back ∧
      first.mark = .start ∧ second.mark = .stop := by
  induction rest generalizing opening with
  | nil => simp at later
  | cons next rest inductionHypothesis =>
      cases kind : next.mark with
      | stop => exact ⟨[], opening, next, rest, rfl, opens, kind⟩
      | start =>
          have inRest : closing ∈ rest := by
            rcases List.mem_cons.mp later with same | inRest
            · rw [same, kind] at closes
              cases closes
            · exact inRest
          obtain ⟨front, first, second, back, split, starts, stops⟩ :=
            inductionHypothesis kind inRest
          exact ⟨opening :: front, first, second, back, by rw [split]; rfl, starts, stops⟩

theorem exists_region_of_balanced {tokens : List Token}
    (balanced : Balanced (tokens.map Token.mark)) (nonempty : tokens ≠ []) :
    Nonempty (Region tokens) := by
  obtain ⟨opening, rest, rfl⟩ := List.exists_cons_of_ne_nil nonempty
  have opens : opening.mark = .start := by
    cases kind : opening.mark with
    | start => rfl
    | stop =>
        have bound := balanced.nonnegative
        simp only [List.map_cons, kind, neverBelow_cons, weight] at bound
        have := bound.2.floor_nonpos
        omega
  have closed : ∃ closing ∈ rest, closing.mark = .stop := by
    by_contra unclosed
    have starts : ∀ mark ∈ rest.map Token.mark, mark = .start := by
      intro mark inRest
      obtain ⟨token, inTokens, rfl⟩ := List.mem_map.mp inRest
      cases kind : token.mark with
      | start => rfl
      | stop => exact absurd ⟨token, inTokens, kind⟩ unclosed
    rw [List.map_cons, opens] at balanced
    exact not_balanced_of_all_start starts balanced
  obtain ⟨closing, later, closes⟩ := closed
  obtain ⟨front, first, second, back, split, starts, stops⟩ := exists_adjacent opens closes later
  exact ⟨⟨front, first, [], second, back, by simpa using split, starts, stops, by decide⟩⟩

theorem Region.isLeaf_iff {tokens : List Token} {region : Region tokens} :
    region.IsLeaf ↔ region.inner = [] := by
  constructor
  · intro leaf
    by_contra nonempty
    exact (exists_region_of_balanced region.matched nonempty).elim leaf.false
  · intro empty
    refine ⟨fun inside => ?_⟩
    have size := congrArg List.length inside.tokens_eq
    simp [empty] at size

theorem Unmatched.cons {tokens : List Token} {offset : Nat} (unmatched : Unmatched tokens offset)
    (token : Token) : Unmatched (token :: tokens) offset := by
  obtain ⟨front, opening, after, rfl, opens, here, unclosed⟩ := unmatched
  refine ⟨token :: front, opening, after, rfl, opens, here, ?_⟩
  intro region sameFront
  obtain ⟨first, outer, shape⟩ := List.exists_cons_of_length_eq_add_one sameFront
  have split := region.tokens_eq
  rw [shape] at split sameFront
  refine unclosed ⟨outer, region.opening, region.inner, region.closing, region.back,
    (List.cons.inj split).2, region.opens, region.closes, region.matched⟩ ?_
  simpa using sameFront

end WarningSweep
