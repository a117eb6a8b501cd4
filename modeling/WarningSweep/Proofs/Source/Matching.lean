import Mathlib.Data.List.Basic
import WarningSweep.Source.Diff

/-!
# Matched runs

A run that is found in a window lies in that window and has the same lines in both texts, and the
runs that are matched follow one another. When a text is compared with itself, one run holds all of
it.
-/

namespace WarningSweep.Source

variable {a b : Array Text} {w : Window}

/-- The `count` lines from `left` on in one text are those from `right` on in the other. -/
def Alike (a b : Array Text) (left right count : Nat) : Prop :=
  ∀ k < count, a[left + k]? = b[right + k]?

theorem alike_zero (a b : Array Text) (left right : Nat) : Alike a b left right 0 := by
  intro k below
  exact absurd below (Nat.not_lt_zero k)

theorem Alike.append {left right count more : Nat} (first : Alike a b left right count)
    (second : Alike a b (left + count) (right + count) more) :
    Alike a b left right (count + more) := by
  intro k below
  by_cases early : k < count
  · exact first k early
  · have later := second (k - count) (by omega)
    have leftPlace : left + count + (k - count) = left + k := by omega
    have rightPlace : right + count + (k - count) = right + k := by omega
    rwa [leftPlace, rightPlace] at later

theorem Alike.part {left right count : Nat} (alike : Alike a b left right count)
    (skipped kept : Nat) (within : skipped + kept ≤ count) :
    Alike a b (left + skipped) (right + skipped) kept := by
  intro k below
  have same := alike (skipped + k) (by omega)
  rwa [← Nat.add_assoc, ← Nat.add_assoc] at same

theorem alike_one {left right : Nat} (same : a[left]? = b[right]?) : Alike a b left right 1 := by
  intro k below
  obtain rfl : k = 0 := by omega
  exact same

/-- A run that lies in a window and has the same lines in both texts. -/
structure Run.Common (a b : Array Text) (w : Window) (run : Run) : Prop where
  left_le : w.left ≤ run.left
  leftStop_le : run.left + run.count ≤ w.leftEnd
  right_le : w.right ≤ run.right
  rightStop_le : run.right + run.count ≤ w.rightEnd
  alike : Alike a b run.left run.right run.count

theorem Run.Common.extend {run : Run} (common : run.Common a b w)
    (leftBelow : run.left + run.count < w.leftEnd) (rightBelow : run.right + run.count < w.rightEnd)
    (same : a[run.left + run.count]? = b[run.right + run.count]?) :
    Run.Common a b w { run with count := run.count + 1 } where
  left_le := common.left_le
  leftStop_le := leftBelow
  right_le := common.right_le
  rightStop_le := rightBelow
  alike := common.alike.append (alike_one same)

/-! ### The longest run -/

def placesAt (places : Array (List Nat)) (i : Nat) : List Nat := (places[i]?).getD []

/-- Where a line stands in a text, unless it is common in a long one. -/
def placesOf (b : Array Text) (line : Text) : List Nat :=
  let places := (List.range b.size).filter fun j => b[j]? = some line
  if longText ≤ b.size ∧ b.size / 100 + 1 < places.length then [] else places

theorem placesAt_anchors (a b : Array Text) (i : Nat) :
    placesAt (anchors a b) i = ((a[i]?).map (placesOf b)).getD [] := by
  unfold placesAt
  change ((a.map (placesOf b))[i]?).getD [] = _
  rw [Array.getElem?_map]

theorem placesOf_sublist (b : Array Text) (line : Text) :
    (placesOf b line).Sublist ((List.range b.size).filter fun j => b[j]? = some line) := by
  unfold placesOf
  dsimp only
  split
  · exact List.nil_sublist _
  · exact List.Sublist.refl _

theorem mem_placesAt_anchors {i j : Nat} (among : j ∈ placesAt (anchors a b) i) :
    j < b.size ∧ a[i]? = b[j]? := by
  rw [placesAt_anchors] at among
  cases found : a[i]? with
  | none => simp [found] at among
  | some line =>
      rw [found, Option.map_some, Option.getD_some] at among
      have listed := List.mem_filter.mp ((placesOf_sublist b line).subset among)
      exact ⟨List.mem_range.mp listed.1, (of_decide_eq_true listed.2).symm⟩

def searchLine (places : Array (List Nat)) (w : Window) (found : Run × Ends)
    (i : Nat) : Run × Ends :=
  let here := (placesAt places i).filter fun j => w.right ≤ j && j < w.rightEnd
  let ends := extendEnds found.2 here
  (bestEnding i found.1 ends, ends)

def searchLines (places : Array (List Nat)) (w : Window) (count : Nat) : Run × Ends :=
  (List.range' w.left count).foldl (searchLine places w) (⟨w.left, w.right, 0⟩, [])

theorem longestRun_eq (places : Array (List Nat)) (w : Window) :
    longestRun places w = (searchLines places w (w.leftEnd - w.left)).1 := rfl

theorem searchLines_succ (places : Array (List Nat)) (w : Window) (count : Nat) :
    searchLines places w (count + 1) =
      searchLine places w (searchLines places w count) (w.left + count) := by
  unfold searchLines
  rw [List.range'_1_concat, List.foldl_append, List.foldl_cons, List.foldl_nil]

theorem mem_of_lookup {ends : Ends} {j k : Nat} (found : ends.lookup j = some k) :
    (j, k) ∈ ends := by
  obtain ⟨front, back, rfl, -⟩ := List.lookup_eq_some_iff.mp found
  simp

/-- Every entry stands for a common run that ends just before a line. -/
def Ends.AreCommon (a b : Array Text) (w : Window) (stop : Nat) (ends : Ends) : Prop :=
  ∀ entry ∈ ends, ∃ run : Run, run.Common a b w ∧ run.left + run.count = stop ∧
    run.right + run.count = entry.1 + 1 ∧ run.count = entry.2

theorem extendEnds_areCommon {ends : Ends} {here : List Nat} {i : Nat}
    (common : ends.AreCommon a b w i) (inside : w.left ≤ i ∧ i < w.leftEnd)
    (anchored : ∀ j ∈ here, (w.right ≤ j ∧ j < w.rightEnd) ∧ a[i]? = b[j]?) :
    (extendEnds ends here).AreCommon a b w (i + 1) := by
  intro entry among
  obtain ⟨j, member, rfl⟩ := List.mem_map.mp among
  obtain ⟨within, same⟩ := anchored j member
  -- a run of one line, where no run ends just before
  have alone : Run.Common a b w ⟨i, j, 1⟩ :=
    ⟨inside.1, inside.2, within.1, within.2, alike_one same⟩
  by_cases first : j = 0
  · exact ⟨⟨i, j, 1⟩, alone, rfl, rfl, by simp [first]⟩
  · cases before : ends.lookup (j - 1) with
    | none => exact ⟨⟨i, j, 1⟩, alone, rfl, rfl, by simp [first]⟩
    | some k =>
        obtain ⟨run, runCommon, leftStop, rightStop, count_eq⟩ := common _ (mem_of_lookup before)
        have place : run.right + run.count = j := by
          have positive : 0 < j := Nat.pos_of_ne_zero first
          simp only at rightStop
          omega
        refine ⟨{ run with count := run.count + 1 }, ?_, ?_, ?_, ?_⟩
        · apply runCommon.extend
          · exact leftStop ▸ inside.2
          · exact place ▸ within.2
          · rw [leftStop, place]
            exact same
        · simp only
          omega
        · simp only
          omega
        · simp [first, count_eq]

theorem bestEnding_common {ends : Ends} {best : Run} {i : Nat} (bestCommon : best.Common a b w)
    (common : ends.AreCommon a b w (i + 1)) : (bestEnding i best ends).Common a b w := by
  unfold bestEnding
  apply List.foldlRecOn ends _ bestCommon
  intro best bestCommon entry member
  obtain ⟨run, runCommon, leftStop, rightStop, count_eq⟩ := common entry member
  simp only
  split
  · have run_eq : (⟨i + 1 - entry.2, entry.1 + 1 - entry.2, entry.2⟩ : Run) = run := by
      cases run
      simp only [Run.mk.injEq] at *
      omega
    rw [run_eq]
    exact runCommon
  · exact bestCommon

theorem searchLines_common (valid : w.right ≤ w.rightEnd) (count : Nat)
    (within : w.left + count ≤ w.leftEnd) :
    (searchLines (anchors a b) w count).1.Common a b w ∧
      (searchLines (anchors a b) w count).2.AreCommon a b w (w.left + count) := by
  induction count with
  | zero =>
      constructor
      · exact ⟨Nat.le_refl _, within, Nat.le_refl _, valid, alike_zero a b _ _⟩
      · intro entry among
        cases among
  | succ count inductionHypothesis =>
      obtain ⟨bestCommon, common⟩ := inductionHypothesis (by omega)
      rw [searchLines_succ]
      have anchored : ∀ j ∈ (placesAt (anchors a b) (w.left + count)).filter
          (fun j => w.right ≤ j && j < w.rightEnd),
          (w.right ≤ j ∧ j < w.rightEnd) ∧ a[w.left + count]? = b[j]? := by
        intro j member
        obtain ⟨among, inside⟩ := List.mem_filter.mp member
        exact ⟨by simpa using inside, (mem_placesAt_anchors among).2⟩
      have extended := extendEnds_areCommon common ⟨Nat.le_add_right _ _, by omega⟩ anchored
      exact ⟨bestEnding_common bestCommon extended, extended⟩

theorem longestRun_common (valid : w.left ≤ w.leftEnd ∧ w.right ≤ w.rightEnd) :
    (longestRun (anchors a b) w).Common a b w := by
  rw [longestRun_eq]
  exact (searchLines_common valid.2 _ (by omega)).1

theorem growFront_common (steps : Nat) {run : Run} (common : run.Common a b w) :
    (growFront a b w steps run).Common a b w := by
  induction steps generalizing run with
  | zero => exact common
  | succ steps inductionHypothesis =>
      unfold growFront
      split
      next grows =>
        obtain ⟨leftAbove, rightAbove, same⟩ := grows
        apply inductionHypothesis
        have leftPlace : run.left - 1 + 1 = run.left := by omega
        have rightPlace : run.right - 1 + 1 = run.right := by omega
        refine ⟨by simp only; omega, ?_, by simp only; omega, ?_, ?_⟩
        · have stop := common.leftStop_le
          simp only
          omega
        · have stop := common.rightStop_le
          simp only
          omega
        · have longer := (alike_one same).append (leftPlace ▸ rightPlace ▸ common.alike)
          rwa [Nat.add_comm] at longer
      · exact common

theorem growBack_common (steps : Nat) {run : Run} (common : run.Common a b w) :
    (growBack a b w steps run).Common a b w := by
  induction steps generalizing run with
  | zero => exact common
  | succ steps inductionHypothesis =>
      unfold growBack
      split
      next grows =>
        apply inductionHypothesis
        exact common.extend grows.1 grows.2.1 grows.2.2
      · exact common

theorem matchWindow_common (valid : w.left ≤ w.leftEnd ∧ w.right ≤ w.rightEnd) :
    (matchWindow a b (anchors a b) w).Common a b w := by
  unfold matchWindow
  apply growBack_common
  apply growFront_common
  exact longestRun_common valid

/-! ### The runs of a window -/

def Follow (a b : Array Text) : Window → List Run → Prop
  | w, [] => w.left ≤ w.leftEnd ∧ w.right ≤ w.rightEnd
  | w, run :: rest => run.Common a b w ∧
      Follow a b ⟨run.left + run.count, w.leftEnd, run.right + run.count, w.rightEnd⟩ rest

/-- Runs that follow one another, and further ones behind the window that holds them. -/
theorem Follow.append {left right leftStop rightStop leftEnd rightEnd : Nat} {runs more : List Run}
    (first : Follow a b ⟨left, leftStop, right, rightStop⟩ runs)
    (ends : leftStop ≤ leftEnd ∧ rightStop ≤ rightEnd)
    (second : ∀ leftPlace rightPlace, leftPlace ≤ leftStop → rightPlace ≤ rightStop →
      Follow a b ⟨leftPlace, leftEnd, rightPlace, rightEnd⟩ more) :
    Follow a b ⟨left, leftEnd, right, rightEnd⟩ (runs ++ more) := by
  induction runs generalizing left right with
  | nil => exact second left right first.1 first.2
  | cons run rest inductionHypothesis =>
      obtain ⟨common, behind⟩ := first
      refine ⟨⟨common.left_le, ?_, common.right_le, ?_, common.alike⟩, inductionHypothesis behind⟩
      · exact Nat.le_trans common.leftStop_le ends.1
      · exact Nat.le_trans common.rightStop_le ends.2

theorem matchedRuns_follow (depth : Nat) {w : Window}
    (valid : w.left ≤ w.leftEnd ∧ w.right ≤ w.rightEnd) :
    Follow a b w (matchedRuns a b (anchors a b) depth w) := by
  induction depth generalizing w with
  | zero => exact valid
  | succ depth inductionHypothesis =>
      have common : (matchWindow a b (anchors a b) w).Common a b w := matchWindow_common valid
      unfold matchedRuns
      generalize matchWindow a b (anchors a b) w = run at common
      have behind : Follow a b ⟨run.left + run.count, w.leftEnd, run.right + run.count, w.rightEnd⟩
          (if run.left + run.count < w.leftEnd ∧ run.right + run.count < w.rightEnd then
            matchedRuns a b (anchors a b) depth
              ⟨run.left + run.count, w.leftEnd, run.right + run.count, w.rightEnd⟩ else []) := by
        split
        · exact inductionHypothesis ⟨common.leftStop_le, common.rightStop_le⟩
        · exact ⟨common.leftStop_le, common.rightStop_le⟩
      have before : Follow a b ⟨w.left, run.left, w.right, run.right⟩
          (if w.left < run.left ∧ w.right < run.right then
            matchedRuns a b (anchors a b) depth ⟨w.left, run.left, w.right, run.right⟩
            else []) := by
        split
        · exact inductionHypothesis ⟨common.left_le, common.right_le⟩
        · exact ⟨common.left_le, common.right_le⟩
      dsimp only
      split
      · exact valid
      · apply before.append
        · exact ⟨Nat.le_trans (Nat.le_add_right _ _) common.leftStop_le,
            Nat.le_trans (Nat.le_add_right _ _) common.rightStop_le⟩
        · intro leftPlace rightPlace leftLe rightLe
          exact ⟨⟨leftLe, common.leftStop_le, rightLe, common.rightStop_le, common.alike⟩, behind⟩

/-- A window is never divided more often than it has lines, so that a larger bound changes
nothing. -/
theorem matchedRuns_of_lt {depth : Nat} {w : Window}
    (valid : w.left ≤ w.leftEnd ∧ w.right ≤ w.rightEnd)
    (enough : w.leftEnd - w.left < depth) (more : Nat) :
    matchedRuns a b (anchors a b) (depth + more) w = matchedRuns a b (anchors a b) depth w := by
  induction depth generalizing w with
  | zero => exact absurd enough (Nat.not_lt_zero _)
  | succ depth inductionHypothesis =>
      have common : (matchWindow a b (anchors a b) w).Common a b w := matchWindow_common valid
      rw [Nat.add_right_comm]
      unfold matchedRuns
      generalize matchWindow a b (anchors a b) w = run at common
      have leftLe := common.left_le
      have leftStopLe := common.leftStop_le
      dsimp only
      split
      · rfl
      next some =>
        rw [inductionHypothesis ⟨leftLe, common.right_le⟩ (by simp only; omega),
          inductionHypothesis ⟨leftStopLe, common.rightStop_le⟩ (by simp only; omega)]

theorem joinRuns_follow {runs : List Run} (follow : Follow a b w runs) :
    Follow a b w (joinRuns runs) := by
  induction runs generalizing w with
  | nil => exact follow
  | cons run rest inductionHypothesis =>
      obtain ⟨common, behind⟩ := follow
      have joined := inductionHypothesis behind
      unfold joinRuns
      cases runs_eq : joinRuns rest with
      | nil =>
          rw [runs_eq] at joined
          exact ⟨common, joined⟩
      | cons next more =>
          rw [runs_eq] at joined
          obtain ⟨nextCommon, further⟩ := joined
          dsimp only
          split
          next adjacent =>
            obtain ⟨leftStop, rightStop⟩ := adjacent
            have leftPlace :
                run.left + (run.count + next.count) = next.left + next.count := by omega
            have rightPlace : run.right + (run.count + next.count) = next.right + next.count := by
              omega
            refine ⟨⟨common.left_le, ?_, common.right_le, ?_, ?_⟩, ?_⟩
            · exact leftPlace ▸ nextCommon.leftStop_le
            · exact rightPlace ▸ nextCommon.rightStop_le
            · apply common.alike.append
              rw [leftStop, rightStop]
              exact nextCommon.alike
            · simp only [leftPlace, rightPlace]
              exact further
          · exact ⟨common, nextCommon, further⟩

/-! ### A text against itself -/

def streak (places : Array (List Nat)) : Nat → Nat
  | 0 => 0
  | i + 1 => if placesAt places i = [] then 0 else streak places i + 1

theorem bestEnding_of_le {ends : Ends} {best : Run} (i : Nat)
    (short : ∀ entry ∈ ends, entry.2 ≤ best.count) : bestEnding i best ends = best := by
  induction ends with
  | nil => rfl
  | cons entry rest inductionHypothesis =>
      have first := short entry List.mem_cons_self
      unfold bestEnding at inductionHypothesis ⊢
      rw [List.foldl_cons]
      simp only [Nat.not_lt.mpr first, if_false]
      exact inductionHypothesis fun later member => short later (List.mem_cons_of_mem entry member)

theorem pairwise_placesAt (a b : Array Text) (i : Nat) :
    (placesAt (anchors a b) i).Pairwise (· < ·) := by
  rw [placesAt_anchors]
  cases a[i]? with
  | none => exact .nil
  | some line =>
      apply List.Pairwise.sublist (placesOf_sublist b line)
      exact List.Pairwise.filter _ List.pairwise_lt_range

theorem placesAt_eq_of_mem {i j : Nat} (among : j ∈ placesAt (anchors a a) i) :
    placesAt (anchors a a) j = placesAt (anchors a a) i := by
  rw [placesAt_anchors, placesAt_anchors, (mem_placesAt_anchors among).2]

theorem self_mem_placesAt {i : Nat} (anchored : placesAt (anchors a a) i ≠ []) :
    i ∈ placesAt (anchors a a) i := by
  rw [placesAt_anchors] at anchored ⊢
  cases found : a[i]? with
  | none => simp [found] at anchored
  | some line =>
      obtain ⟨below, -⟩ := Array.getElem?_eq_some_iff.mp found
      rw [found, Option.map_some, Option.getD_some] at anchored
      rw [Option.map_some, Option.getD_some]
      unfold placesOf at anchored ⊢
      dsimp only at anchored ⊢
      split at anchored
      · exact absurd rfl anchored
      next rare =>
        rw [if_neg rare]
        exact List.mem_filter.mpr ⟨List.mem_range.mpr below, decide_eq_true found⟩

/-- The length of the run that ends at a place just before the one looked at. -/
def Ends.before (ends : Ends) (j : Nat) : Nat := if j = 0 then 0 else (ends.lookup (j - 1)).getD 0

/-- What is known after the lines before `i` of a text that is compared with itself: the best run is
at the same place on both sides, and no streak so far is longer. -/
structure OnDiagonal (places : Array (List Nat)) (i : Nat) (found : Run × Ends) : Prop where
  diagonal : found.1.left = found.1.right
  longest : ∀ j ≤ i, streak places j ≤ found.1.count
  bounded : ∀ entry ∈ found.2, entry.2 ≤ streak places i ∧ entry.2 ≤ streak places (entry.1 + 1)
  present : found.2.before i = streak places i

theorem OnDiagonal.before_le {places : Array (List Nat)} {i : Nat} {found : Run × Ends}
    (known : OnDiagonal places i found) (j : Nat) :
    found.2.before j ≤ streak places i ∧ found.2.before j ≤ streak places j := by
  unfold Ends.before
  split
  · exact ⟨Nat.zero_le _, Nat.zero_le _⟩
  next positive =>
    cases entry : found.2.lookup (j - 1) with
    | none => exact ⟨Nat.zero_le _, Nat.zero_le _⟩
    | some k =>
        have place : j - 1 + 1 = j := by omega
        have bound := known.bounded _ (mem_of_lookup entry)
        rwa [place] at bound

theorem bestEnding_append (i : Nat) (best : Run) (front back : Ends) :
    bestEnding i best (front ++ back) = bestEnding i (bestEnding i best front) back :=
  List.foldl_append

/-- The entries before the diagonal are no longer than an earlier streak, and those behind it are no
longer than the streak at the diagonal. -/
theorem OnDiagonal.step {i : Nat} {found : Run × Ends} (known : OnDiagonal (anchors a a) i found)
    (anchored : placesAt (anchors a a) i ≠ []) :
    OnDiagonal (anchors a a) (i + 1)
      (bestEnding i found.1 (extendEnds found.2 (placesAt (anchors a a) i)),
        extendEnds found.2 (placesAt (anchors a a) i)) := by
  have grown {j : Nat} (member : j ∈ placesAt (anchors a a) i) :
      streak (anchors a a) (j + 1) = streak (anchors a a) j + 1 := by
    rw [streak, placesAt_eq_of_mem member, if_neg anchored]
  have here := self_mem_placesAt anchored
  have bounded : ∀ j ∈ placesAt (anchors a a) i,
      found.2.before j + 1 ≤ streak (anchors a a) (i + 1) ∧
        found.2.before j + 1 ≤ streak (anchors a a) (j + 1) := by
    intro j member
    have bound := known.before_le j
    rw [grown here, grown member]
    omega
  have sorted := pairwise_placesAt a a i
  have ends_eq (places : List Nat) :
      extendEnds found.2 places = places.map fun j => (j, found.2.before j + 1) := rfl
  obtain ⟨front, back, split⟩ := List.append_of_mem here
  rw [ends_eq]
  generalize placesAt (anchors a a) i = places at *
  subst split
  have early : bestEnding i found.1 (front.map fun j => (j, found.2.before j + 1)) = found.1 := by
    apply bestEnding_of_le
    intro entry member
    obtain ⟨j, among, rfl⟩ := List.mem_map.mp member
    have below : j < i := (List.pairwise_append.mp sorted).2.2 j among i List.mem_cons_self
    exact Nat.le_trans (bounded j (List.mem_append_left _ among)).2 (known.longest (j + 1) below)
  have atPlace : found.2.before i + 1 = streak (anchors a a) (i + 1) := by
    rw [grown here, known.present]
  -- the best run once the diagonal has been looked at
  obtain ⟨best, best_eq, diagonal, longer, longest⟩ : ∃ best,
      bestEnding i found.1 [(i, found.2.before i + 1)] = best ∧ best.left = best.right ∧
        found.1.count ≤ best.count ∧ streak (anchors a a) (i + 1) ≤ best.count := by
    refine ⟨_, rfl, ?_⟩
    simp only [bestEnding, List.foldl_cons, List.foldl_nil, atPlace]
    split
    next improves => exact ⟨rfl, Nat.le_of_lt improves, Nat.le_refl _⟩
    next enough => exact ⟨known.diagonal, Nat.le_refl _, Nat.not_lt.mp enough⟩
  have late : bestEnding i best (back.map fun j => (j, found.2.before j + 1)) = best := by
    apply bestEnding_of_le
    intro entry member
    obtain ⟨j, among, rfl⟩ := List.mem_map.mp member
    have bound := (bounded j (List.mem_append_right _ (List.mem_cons_of_mem _ among))).1
    exact Nat.le_trans bound longest
  have whole : bestEnding i found.1 ((front ++ i :: back).map fun j => (j, found.2.before j + 1)) =
      best := by
    rw [List.map_append, List.map_cons, ← List.singleton_append, bestEnding_append, early,
      bestEnding_append, best_eq, late]
  constructor
  · exact whole ▸ diagonal
  · intro j bound
    simp only [whole]
    rcases Nat.lt_or_eq_of_le bound with earlier | rfl
    · exact Nat.le_trans (known.longest j (Nat.lt_succ_iff.mp earlier)) longer
    · exact longest
  · intro entry member
    obtain ⟨j, among, rfl⟩ := List.mem_map.mp member
    exact bounded j among
  · unfold Ends.before
    rw [if_neg (Nat.succ_ne_zero i), Nat.add_sub_cancel, List.lookup_graph _ here]
    exact atPlace

theorem searchLines_onDiagonal (count : Nat) (within : count ≤ a.size) :
    OnDiagonal (anchors a a) count (searchLines (anchors a a) ⟨0, a.size, 0, a.size⟩ count) := by
  induction count with
  | zero =>
      refine ⟨rfl, ?_, ?_, rfl⟩
      · intro j bound
        obtain rfl : j = 0 := by omega
        exact Nat.le_refl 0
      · intro entry member
        cases member
  | succ count inductionHypothesis =>
      have known := inductionHypothesis (by omega)
      rw [searchLines_succ, Nat.zero_add]
      unfold searchLine
      have here : (placesAt (anchors a a) count).filter (fun j => 0 ≤ j && j < a.size) =
          placesAt (anchors a a) count := by
        apply List.filter_eq_self.mpr
        intro j member
        simpa using (mem_placesAt_anchors member).1
      simp only [here]
      by_cases anchored : placesAt (anchors a a) count = []
      · -- a line without a place ends all runs
        have ended : streak (anchors a a) (count + 1) = 0 := by rw [streak, if_pos anchored]
        rw [anchored]
        refine ⟨known.diagonal, ?_, ?_, ?_⟩
        · intro j bound
          rcases Nat.lt_or_eq_of_le bound with earlier | rfl
          · exact known.longest j (Nat.lt_succ_iff.mp earlier)
          · rw [ended]
            exact Nat.zero_le _
        · intro entry member
          cases member
        · rw [ended]
          rfl
      · exact known.step anchored

theorem growFront_self (steps : Nat) {run : Run} (diagonal : run.left = run.right)
    (enough : run.left ≤ steps) :
    growFront a a ⟨0, a.size, 0, a.size⟩ steps run = ⟨0, 0, run.left + run.count⟩ := by
  induction steps generalizing run with
  | zero =>
      obtain ⟨left, right, count⟩ := run
      obtain rfl : left = 0 := by simpa using enough
      obtain rfl : right = 0 := diagonal.symm
      simp [growFront]
  | succ steps inductionHypothesis =>
      unfold growFront
      by_cases front : run.left = 0
      · rw [if_neg (by simp [front])]
        obtain ⟨left, right, count⟩ := run
        obtain rfl : left = 0 := front
        obtain rfl : right = 0 := diagonal.symm
        simp
      · have grows : 0 < run.left ∧ 0 < run.right ∧ a[run.left - 1]? = a[run.right - 1]? := by
          rw [← diagonal]
          exact ⟨Nat.pos_of_ne_zero front, Nat.pos_of_ne_zero front, rfl⟩
        rw [if_pos grows, inductionHypothesis (by simp [diagonal]) (by simp only; omega)]
        simp only [Run.mk.injEq, true_and]
        omega

theorem growBack_self (steps : Nat) {count : Nat} (within : count ≤ a.size)
    (enough : a.size - count ≤ steps) :
    growBack a a ⟨0, a.size, 0, a.size⟩ steps ⟨0, 0, count⟩ = ⟨0, 0, a.size⟩ := by
  induction steps generalizing count with
  | zero =>
      obtain rfl : count = a.size := by omega
      rfl
  | succ steps inductionHypothesis =>
      unfold growBack
      by_cases back : count = a.size
      · rw [if_neg (by simp [back]), back]
      · have grows : 0 + count < a.size ∧ 0 + count < a.size ∧ a[0 + count]? = a[0 + count]? := by
          refine ⟨?_, ?_, rfl⟩ <;> omega
        rw [if_pos grows]
        have further : count + 1 ≤ a.size := by omega
        have closer : a.size - (count + 1) ≤ steps := by omega
        exact inductionHypothesis further closer

theorem matchWindow_self (a : Array Text) :
    matchWindow a a (anchors a a) ⟨0, a.size, 0, a.size⟩ = ⟨0, 0, a.size⟩ := by
  have common : (longestRun (anchors a a) ⟨0, a.size, 0, a.size⟩).Common a a
      ⟨0, a.size, 0, a.size⟩ :=
    longestRun_common ⟨Nat.zero_le _, Nat.zero_le _⟩
  have diagonal : (longestRun (anchors a a) ⟨0, a.size, 0, a.size⟩).left =
      (longestRun (anchors a a) ⟨0, a.size, 0, a.size⟩).right := by
    rw [longestRun_eq]
    exact (searchLines_onDiagonal a.size (Nat.le_refl _)).diagonal
  have within := common.leftStop_le
  unfold matchWindow
  simp only [Nat.sub_zero] at within ⊢
  rw [growFront_self a.size diagonal (by omega), growBack_self a.size within (by omega)]

theorem matchedRuns_self (a : Array Text) (depth : Nat) :
    matchedRuns a a (anchors a a) (depth + 1) ⟨0, a.size, 0, a.size⟩ =
      if a.size = 0 then [] else [⟨0, 0, a.size⟩] := by
  unfold matchedRuns
  rw [matchWindow_self]
  simp

end WarningSweep.Source
