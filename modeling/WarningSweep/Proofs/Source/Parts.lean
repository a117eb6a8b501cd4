import WarningSweep.Proofs.Source.Matching

/-!
# Parts and hunks

The parts of a comparison follow one another without a gap.  The hunks that they are cut into leave
only equal lines out, and without a change there is no hunk.
-/

namespace WarningSweep.Source

variable {a b : Array Text}

/-- A part holds equal lines, or it holds a change of at least one line. -/
structure Part.Sound (a b : Array Text) (part : Part) : Prop where
  left_le : part.window.left ≤ part.window.leftEnd
  right_le : part.window.right ≤ part.window.rightEnd
  equal : part.equal = true → ∃ count, part.window.leftEnd = part.window.left + count ∧
    part.window.rightEnd = part.window.right + count ∧
    Alike a b part.window.left part.window.right count
  change : part.equal = false →
    part.window.left < part.window.leftEnd ∨ part.window.right < part.window.rightEnd

theorem sound_of_alike {left right leftEnd rightEnd count : Nat} (leftStop : leftEnd = left + count)
    (rightStop : rightEnd = right + count) (alike : Alike a b left right count) :
    Part.Sound a b ⟨true, ⟨left, leftEnd, right, rightEnd⟩⟩ where
  left_le := leftStop ▸ Nat.le_add_right left count
  right_le := rightStop ▸ Nat.le_add_right right count
  equal := fun _ => ⟨count, leftStop, rightStop, alike⟩
  change := nofun

/-- Sound parts that lead from a place in both texts to another one. -/
def Lead (a b : Array Text) : (left right : Nat) → List Part → (leftEnd rightEnd : Nat) → Prop
  | left, right, [], leftEnd, rightEnd => left = leftEnd ∧ right = rightEnd
  | left, right, part :: rest, leftEnd, rightEnd =>
    part.window.left = left ∧ part.window.right = right ∧ part.Sound a b ∧
      Lead a b part.window.leftEnd part.window.rightEnd rest leftEnd rightEnd

variable {left right leftStop rightStop leftEnd rightEnd : Nat}

theorem lead_append {front back : List Part} :
    Lead a b left right (front ++ back) leftEnd rightEnd ↔
      ∃ leftStop rightStop, Lead a b left right front leftStop rightStop ∧
        Lead a b leftStop rightStop back leftEnd rightEnd := by
  induction front generalizing left right with
  | nil =>
      constructor
      · intro lead
        exact ⟨left, right, ⟨rfl, rfl⟩, lead⟩
      · rintro ⟨_, _, ⟨rfl, rfl⟩, lead⟩
        exact lead
  | cons part rest inductionHypothesis =>
      simp only [List.cons_append, Lead, inductionHypothesis]
      constructor
      · rintro ⟨leftPlace, rightPlace, sound, leftStop, rightStop, first, second⟩
        exact ⟨leftStop, rightStop, ⟨leftPlace, rightPlace, sound, first⟩, second⟩
      · rintro ⟨leftStop, rightStop, ⟨leftPlace, rightPlace, sound, first⟩, second⟩
        exact ⟨leftPlace, rightPlace, sound, leftStop, rightStop, first, second⟩

theorem lead_singleton {part : Part} (sound : part.Sound a b) :
    Lead a b part.window.left part.window.right [part] part.window.leftEnd part.window.rightEnd :=
  ⟨rfl, rfl, sound, rfl, rfl⟩

theorem Lead.le {parts : List Part} (lead : Lead a b left right parts leftEnd rightEnd) :
    left ≤ leftEnd ∧ right ≤ rightEnd := by
  induction parts generalizing left right with
  | nil => exact ⟨Nat.le_of_eq lead.1, Nat.le_of_eq lead.2⟩
  | cons part rest inductionHypothesis =>
      obtain ⟨rfl, rfl, sound, behind⟩ := lead
      have further := inductionHypothesis behind
      exact ⟨Nat.le_trans sound.left_le further.1, Nat.le_trans sound.right_le further.2⟩

theorem Lead.alike_of_equal {parts : List Part} (lead : Lead a b left right parts leftEnd rightEnd)
    (equal : ∀ part ∈ parts, part.equal = true) :
    ∃ count, leftEnd = left + count ∧ rightEnd = right + count ∧ Alike a b left right count := by
  induction parts generalizing left right with
  | nil => exact ⟨0, lead.1.symm, lead.2.symm, alike_zero a b left right⟩
  | cons part rest inductionHypothesis =>
      obtain ⟨rfl, rfl, sound, behind⟩ := lead
      obtain ⟨count, leftStop, rightStop, alike⟩ := sound.equal (equal part List.mem_cons_self)
      obtain ⟨more, leftEnd_eq, rightEnd_eq, further⟩ :=
        inductionHypothesis behind fun later member => equal later (List.mem_cons_of_mem _ member)
      rw [leftStop, rightStop] at further
      exact ⟨count + more, by omega, by omega, alike.append further⟩

theorem partsFrom_lead {runs : List Run}
    (follow : Follow a b ⟨left, leftEnd, right, rightEnd⟩ runs) :
    Lead a b left right (partsFrom left right leftEnd rightEnd runs) leftEnd rightEnd := by
  induction runs generalizing left right with
  | nil =>
      obtain ⟨leftLe, rightLe⟩ := follow
      unfold partsFrom
      split
      next change =>
        have sound : Part.Sound a b ⟨false, ⟨left, leftEnd, right, rightEnd⟩⟩ :=
          ⟨leftLe, rightLe, nofun, fun _ => change⟩
        exact lead_singleton sound
      next nothing =>
        simp only at leftLe rightLe
        exact ⟨by omega, by omega⟩
  | cons run rest inductionHypothesis =>
      obtain ⟨common, behind⟩ := follow
      have leftLe := common.left_le
      have rightLe := common.right_le
      have matched : Lead a b run.left run.right
          (⟨true, ⟨run.left, run.left + run.count, run.right, run.right + run.count⟩⟩ ::
            partsFrom (run.left + run.count) (run.right + run.count) leftEnd rightEnd rest)
          leftEnd rightEnd :=
        ⟨rfl, rfl, sound_of_alike rfl rfl common.alike, inductionHypothesis behind⟩
      unfold partsFrom
      dsimp only
      split
      next change =>
        exact ⟨rfl, rfl, ⟨leftLe, rightLe, nofun, fun _ => change⟩, matched⟩
      next nothing =>
        simp only at leftLe rightLe
        obtain rfl : left = run.left := by omega
        obtain rfl : right = run.right := by omega
        exact matched

theorem parts_lead (a b : Array Text) : Lead a b 0 0 (parts a b) a.size b.size := by
  unfold parts
  apply partsFrom_lead
  apply joinRuns_follow
  apply matchedRuns_follow
  exact ⟨Nat.zero_le _, Nat.zero_le _⟩

theorem parts_self (a : Array Text) : ∀ part ∈ parts a a, part.equal = true := by
  unfold parts
  rw [matchedRuns_self]
  intro part member
  by_cases empty : a.size = 0
  · simp [empty, joinRuns, partsFrom] at member
  · rw [if_neg empty] at member
    simp [joinRuns, partsFrom] at member
    rw [member]

/-! ### Context -/

/-- Parts whose first stretch of equal lines is cut down to a context. -/
def trimFront (parts : List Part) : List Part :=
  match parts with
  | ⟨true, w⟩ :: rest => ⟨true, w.last contextSize⟩ :: rest
  | _ => parts

/-- Parts whose last stretch of equal lines is cut down to a context. -/
def trimBack (parts : List Part) : List Part :=
  match parts.getLast? with
  | some ⟨true, w⟩ => parts.dropLast ++ [⟨true, w.first contextSize⟩]
  | _ => parts

theorem trimEnds_eq (parts : List Part) : trimEnds parts = trimBack (trimFront parts) := rfl

/-- The last lines of a stretch of equal lines, and how many are left out before them. -/
theorem last_sound {w : Window} (sound : Part.Sound a b ⟨true, w⟩) (n : Nat) :
    ∃ skipped, Alike a b w.left w.right skipped ∧ Part.Sound a b ⟨true, w.last n⟩ ∧
      (w.last n).left = w.left + skipped ∧ (w.last n).right = w.right + skipped := by
  obtain ⟨count, leftStop, rightStop, alike⟩ := sound.equal rfl
  simp only at leftStop rightStop alike
  refine ⟨count - n, ?_, ?_, ?_, ?_⟩
  · exact alike.part 0 (count - n) (by omega)
  · have kept := alike.part (count - n) (min count n) (by omega)
    have leftPlace : max w.left (w.leftEnd - n) = w.left + (count - n) := by omega
    have rightPlace : max w.right (w.rightEnd - n) = w.right + (count - n) := by omega
    unfold Window.last
    rw [leftPlace, rightPlace]
    exact sound_of_alike (by omega) (by omega) kept
  · change max w.left (w.leftEnd - n) = _
    omega
  · change max w.right (w.rightEnd - n) = _
    omega

/-- The first lines of a stretch of equal lines, and how many are left out behind them. -/
theorem first_sound {w : Window} (sound : Part.Sound a b ⟨true, w⟩) (n : Nat) :
    ∃ skipped, Part.Sound a b ⟨true, w.first n⟩ ∧
      Alike a b (w.first n).leftEnd (w.first n).rightEnd skipped ∧
      w.leftEnd = (w.first n).leftEnd + skipped ∧ w.rightEnd = (w.first n).rightEnd + skipped := by
  obtain ⟨count, leftStop, rightStop, alike⟩ := sound.equal rfl
  simp only at leftStop rightStop alike
  have leftPlace : min w.leftEnd (w.left + n) = w.left + min count n := by omega
  have rightPlace : min w.rightEnd (w.right + n) = w.right + min count n := by omega
  unfold Window.first
  rw [leftPlace, rightPlace]
  refine ⟨count - n, ?_, ?_, ?_, ?_⟩
  · exact sound_of_alike rfl rfl (alike.part 0 (min count n) (by omega))
  · exact alike.part (min count n) (count - n) (by omega)
  · simp only
    omega
  · simp only
    omega

theorem trimFront_lead {parts : List Part} (lead : Lead a b left right parts leftEnd rightEnd) :
    ∃ skipped, Alike a b left right skipped ∧
      Lead a b (left + skipped) (right + skipped) (trimFront parts) leftEnd rightEnd := by
  unfold trimFront
  split
  next w rest =>
    obtain ⟨rfl, rfl, sound, behind⟩ := lead
    obtain ⟨skipped, alike, kept, leftPlace, rightPlace⟩ := last_sound sound contextSize
    exact ⟨skipped, alike, leftPlace, rightPlace, kept, behind⟩
  · exact ⟨0, alike_zero a b left right, lead⟩

theorem trimBack_lead {parts : List Part} (lead : Lead a b left right parts leftEnd rightEnd) :
    ∃ leftStop rightStop skipped, Lead a b left right (trimBack parts) leftStop rightStop ∧
      Alike a b leftStop rightStop skipped ∧ leftEnd = leftStop + skipped ∧
      rightEnd = rightStop + skipped := by
  unfold trimBack
  split
  next w found =>
    obtain ⟨front, rfl⟩ := List.getLast?_eq_some_iff.mp found
    rw [List.dropLast_concat]
    obtain ⟨leftPlace, rightPlace, before, rfl, rfl, sound, rfl, rfl⟩ := lead_append.mp lead
    obtain ⟨skipped, kept, alike, leftStop, rightStop⟩ := first_sound sound contextSize
    refine ⟨_, _, skipped, ?_, alike, leftStop, rightStop⟩
    exact lead_append.mpr ⟨_, _, before, lead_singleton kept⟩
  · exact ⟨leftEnd, rightEnd, 0, lead, alike_zero a b _ _, rfl, rfl⟩

/-! ### Hunks -/

/-- Groups of parts that lead from a place to another one, with only equal lines between them. -/
def Spread (a b : Array Text) : (left right : Nat) → List (List Part) →
    (leftEnd rightEnd : Nat) → Prop
  | left, right, [], leftEnd, rightEnd =>
    ∃ count, Alike a b left right count ∧ leftEnd = left + count ∧ rightEnd = right + count
  | left, right, hunk :: rest, leftEnd, rightEnd => ∃ skipped leftStop rightStop,
    Alike a b left right skipped ∧
      Lead a b (left + skipped) (right + skipped) hunk leftStop rightStop ∧
      Spread a b leftStop rightStop rest leftEnd rightEnd

theorem Spread.le {hunks : List (List Part)}
    (spread : Spread a b left right hunks leftEnd rightEnd) :
    left ≤ leftEnd ∧ right ≤ rightEnd := by
  induction hunks generalizing left right with
  | nil =>
      obtain ⟨count, -, rfl, rfl⟩ := spread
      exact ⟨Nat.le_add_right _ _, Nat.le_add_right _ _⟩
  | cons hunk rest inductionHypothesis =>
      obtain ⟨skipped, leftStop, rightStop, -, lead, behind⟩ := spread
      have inside := lead.le
      have further := inductionHypothesis behind
      omega

theorem Spread.after {hunks : List (List Part)} {skipped : Nat}
    (alike : Alike a b left right skipped)
    (spread : Spread a b (left + skipped) (right + skipped) hunks leftEnd rightEnd) :
    Spread a b left right hunks leftEnd rightEnd := by
  cases hunks with
  | nil =>
      obtain ⟨count, more, rfl, rfl⟩ := spread
      exact ⟨skipped + count, alike.append more, by omega, by omega⟩
  | cons hunk rest =>
      obtain ⟨count, leftStop, rightStop, more, lead, behind⟩ := spread
      rw [Nat.add_assoc, Nat.add_assoc] at lead
      exact ⟨skipped + count, leftStop, rightStop, alike.append more, lead, behind⟩

theorem Spread.before {hunks : List (List Part)} {skipped : Nat}
    (spread : Spread a b left right hunks leftStop rightStop)
    (alike : Alike a b leftStop rightStop skipped) :
    Spread a b left right hunks (leftStop + skipped) (rightStop + skipped) := by
  induction hunks generalizing left right with
  | nil =>
      obtain ⟨count, more, rfl, rfl⟩ := spread
      exact ⟨count + skipped, more.append alike, by omega, by omega⟩
  | cons hunk rest inductionHypothesis =>
      obtain ⟨count, leftPlace, rightPlace, more, lead, behind⟩ := spread
      exact ⟨count, leftPlace, rightPlace, more, lead, inductionHypothesis behind⟩

def hasChange (hunk : List Part) : Bool := hunk.any fun part => !part.equal

theorem hunks_eq (parts : List Part) :
    hunks parts = (hunksFrom [] (trimEnds parts)).filter hasChange := rfl

theorem hasChange_eq_false_iff {hunk : List Part} :
    hasChange hunk = false ↔ ∀ part ∈ hunk, part.equal = true := by
  simp [hasChange]

theorem Spread.filter {hunks : List (List Part)}
    (spread : Spread a b left right hunks leftEnd rightEnd) :
    Spread a b left right (hunks.filter hasChange) leftEnd rightEnd := by
  induction hunks generalizing left right with
  | nil => exact spread
  | cons hunk rest inductionHypothesis =>
      obtain ⟨skipped, leftStop, rightStop, alike, lead, behind⟩ := spread
      have filtered := inductionHypothesis behind
      by_cases changes : hasChange hunk = true
      · rw [List.filter_cons_of_pos changes]
        exact ⟨skipped, leftStop, rightStop, alike, lead, filtered⟩
      · rw [List.filter_cons_of_neg changes]
        have equal := hasChange_eq_false_iff.mp (Bool.not_eq_true _ ▸ changes)
        obtain ⟨count, rfl, rfl, more⟩ := lead.alike_of_equal equal
        apply Spread.after alike
        exact Spread.after more filtered

theorem hunksFrom_spread {hunk parts : List Part}
    (begun : Lead a b left right hunk leftStop rightStop)
    (lead : Lead a b leftStop rightStop parts leftEnd rightEnd) :
    Spread a b left right (hunksFrom hunk parts) leftEnd rightEnd := by
  induction parts generalizing hunk left right leftStop rightStop with
  | nil =>
      obtain ⟨rfl, rfl⟩ := lead
      exact ⟨0, _, _, alike_zero a b left right, begun, 0, alike_zero a b _ _, rfl, rfl⟩
  | cons part rest inductionHypothesis =>
      obtain ⟨rfl, rfl, sound, behind⟩ := lead
      obtain ⟨equal, w⟩ := part
      unfold hunksFrom
      dsimp only
      split
      next long =>
        obtain ⟨rfl, size⟩ : equal = true ∧ 2 * contextSize < w.leftEnd - w.left := by
          simpa using long
        obtain ⟨count, leftStop, rightStop, alike⟩ := sound.equal rfl
        obtain ⟨-, kept, -, -, -⟩ := first_sound sound contextSize
        obtain ⟨skipped, -, resumed, leftPlace, rightPlace⟩ := last_sound sound contextSize
        -- what lies between the two contexts is left out
        have leftFirst : (w.first contextSize).leftEnd = w.left + contextSize := by
          change min w.leftEnd (w.left + contextSize) = _
          omega
        have rightFirst : (w.first contextSize).rightEnd = w.right + contextSize := by
          change min w.rightEnd (w.right + contextSize) = _
          simp only at leftStop rightStop
          omega
        have leftLast : (w.last contextSize).left =
            (w.first contextSize).leftEnd + (count - 2 * contextSize) := by
          rw [leftFirst]
          change max w.left (w.leftEnd - contextSize) = _
          simp only at leftStop
          omega
        have rightLast : (w.last contextSize).right =
            (w.first contextSize).rightEnd + (count - 2 * contextSize) := by
          rw [rightFirst]
          change max w.right (w.rightEnd - contextSize) = _
          simp only at leftStop rightStop
          omega
        have gap : Alike a b (w.first contextSize).leftEnd (w.first contextSize).rightEnd
            (count - 2 * contextSize) := by
          rw [leftFirst, rightFirst]
          apply alike.part
          simp only at leftStop
          omega
        refine ⟨0, _, _, alike_zero a b left right,
          lead_append.mpr ⟨_, _, begun, lead_singleton kept⟩, ?_⟩
        apply Spread.after gap
        rw [← leftLast, ← rightLast]
        exact inductionHypothesis (lead_singleton resumed) behind
      · apply inductionHypothesis _ behind
        exact lead_append.mpr ⟨_, _, begun, lead_singleton sound⟩

theorem hunks_spread (a b : Array Text) : Spread a b 0 0 (hunks (parts a b)) a.size b.size := by
  obtain ⟨before, front, trimmed⟩ := trimFront_lead (parts_lead a b)
  obtain ⟨leftStop, rightStop, behind, lead, back, leftEnd, rightEnd⟩ := trimBack_lead trimmed
  rw [← trimEnds_eq] at lead
  have begun : Lead a b (0 + before) (0 + before) [] (0 + before) (0 + before) := ⟨rfl, rfl⟩
  have cut := hunksFrom_spread begun lead
  rw [hunks_eq, leftEnd, rightEnd]
  apply Spread.filter
  exact (Spread.after front cut).before back

theorem equal_of_mem_trimEnds {parts : List Part} (equal : ∀ part ∈ parts, part.equal = true) :
    ∀ part ∈ trimEnds parts, part.equal = true := by
  have front : ∀ part ∈ trimFront parts, part.equal = true := by
    unfold trimFront
    split
    next w rest =>
      intro part member
      rcases List.mem_cons.mp member with rfl | later
      · rfl
      · exact equal part (List.mem_cons_of_mem _ later)
    · exact equal
  rw [trimEnds_eq]
  unfold trimBack
  split
  · intro part member
    rcases List.mem_append.mp member with earlier | last
    · exact front part (List.dropLast_subset _ earlier)
    · rw [List.mem_singleton.mp last]
  · exact front

theorem hasChange_of_mem_hunksFrom {hunk parts : List Part}
    (begun : ∀ part ∈ hunk, part.equal = true) (equal : ∀ part ∈ parts, part.equal = true) :
    ∀ group ∈ hunksFrom hunk parts, hasChange group = false := by
  induction parts generalizing hunk with
  | nil =>
      intro group member
      rw [List.mem_singleton.mp member]
      exact hasChange_eq_false_iff.mpr begun
  | cons part rest inductionHypothesis =>
      have first := equal part List.mem_cons_self
      have later : ∀ part ∈ rest, part.equal = true := fun part member =>
        equal part (List.mem_cons_of_mem _ member)
      unfold hunksFrom
      dsimp only
      split
      · intro group member
        rcases List.mem_cons.mp member with rfl | further
        · apply hasChange_eq_false_iff.mpr
          intro part member
          rcases List.mem_append.mp member with earlier | last
          · exact begun part earlier
          · rw [List.mem_singleton.mp last]
        · refine inductionHypothesis ?_ later group further
          intro part member
          rw [List.mem_singleton.mp member]
      · refine inductionHypothesis ?_ later
        intro part member
        rcases List.mem_append.mp member with earlier | last
        · exact begun part earlier
        · rw [List.mem_singleton.mp last]
          exact first

theorem hunks_self (a : Array Text) : hunks (parts a a) = [] := by
  rw [hunks_eq]
  apply List.filter_eq_nil_iff.mpr
  intro group member
  rw [Bool.not_eq_true]
  refine hasChange_of_mem_hunksFrom ?_ (equal_of_mem_trimEnds (parts_self a)) group member
  intro part none
  cases none

end WarningSweep.Source
