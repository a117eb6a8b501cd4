import WarningSweep.Proofs.Source.Parts

/-!
# Differences as patches

The difference of two texts shows hunks that turn the lines of one text into the lines of the other.
Each hunk stands in both texts at the ranges that its header states, and outside the hunks all lines
are equal.
-/

namespace WarningSweep

theorem flatten_consLine {α : Type} (x : α) (lines : List (List α × List α)) :
    (consLine x lines).flatMap (fun line => line.1 ++ line.2) =
      x :: lines.flatMap fun line => line.1 ++ line.2 := by
  cases lines with
  | nil => rfl
  | cons line rest => simp [consLine]

theorem flatten_linesOf {α : Type} (code : α → Option Char) (xs : List α) :
    ((linesOf code xs).flatMap fun line => line.1 ++ line.2) = xs := by
  fun_induction linesOf code xs with
  | case1 => rfl
  | case2 x rest noChar inductionHypothesis => rw [flatten_consLine, inductionHypothesis]
  | case3 x rest c isChar inside inductionHypothesis => rw [flatten_consLine, inductionHypothesis]
  | case4 x c isChar isEnd => rfl
  | case5 x c isChar isEnd y more pair inductionHypothesis =>
      simp [inductionHypothesis]
  | case6 x c isChar isEnd y more single inductionHypothesis =>
      rw [List.flatMap_cons, inductionHypothesis]
      rfl

theorem Text.flatten_lines (t : Text) : t.lines.flatten = t := by
  unfold Text.lines
  rw [← List.flatMap_def]
  exact flatten_linesOf Glyph.char? t

theorem Text.lines_injective {s t : Text} (same : s.lines = t.lines) : s = t := by
  rw [← s.flatten_lines, same, t.flatten_lines]

namespace Source

/-! ### Ranges -/

def readNumber (chars : List Char) : Nat × List Char :=
  (Nat.ofDigitChars 10 (chars.takeWhile Char.isDigit) 0, chars.dropWhile Char.isDigit)

/-- The range that a header states: how many lines stand before it, and how many it holds. -/
def readRange? (range : String) : Option (Nat × Nat) :=
  match readNumber range.toList with
  | (place, []) => some (place - 1, 1)
  | (place, ',' :: more) =>
    let count := (readNumber more).1
    some (if count = 0 then place else place - 1, count)
  | _ => none

theorem readNumber_append (n : Nat) {rest : List Char}
    (stops : ∀ c ∈ rest.head?, c.isDigit = false) :
    readNumber ((toString n).toList ++ rest) = (n, rest) := by
  have digits : ∀ c ∈ Nat.toDigits 10 n, c.isDigit = true :=
    fun c member => Nat.isDigit_of_mem_toDigits (by decide) (by decide) member
  have after : rest.takeWhile Char.isDigit = [] ∧ rest.dropWhile Char.isDigit = rest := by
    cases rest with
    | nil => exact ⟨rfl, rfl⟩
    | cons c more => simp [stops c rfl]
  change readNumber (n.repr.toList ++ rest) = _
  unfold readNumber
  rw [Nat.toList_repr, List.takeWhile_append_of_pos digits, List.dropWhile_append_of_pos digits,
    after.1, after.2, List.append_nil, Nat.ofDigitChars_ten_toDigits]

theorem readNumber_toString (n : Nat) : readNumber (toString n).toList = (n, []) := by
  have read : readNumber ((toString n).toList ++ []) = (n, []) := readNumber_append n nofun
  rwa [List.append_nil] at read

theorem readRange?_pair (place count : Nat) :
    readRange? (toString place ++ "," ++ toString count) =
      some (if count = 0 then place else place - 1, count) := by
  have chars : (toString place ++ "," ++ toString count).toList =
      (toString place).toList ++ ',' :: (toString count).toList := by
    rw [String.toList_append, String.toList_append, List.append_assoc]
    rfl
  unfold readRange?
  rw [chars, readNumber_append place (by simp)]
  simp only [readNumber_toString]

theorem readRange?_rangeText (first count : Nat) :
    readRange? (rangeText first (first + count)) = some (first, count) := by
  unfold rangeText
  simp only [Nat.add_sub_cancel_left]
  split
  next one =>
    unfold readRange?
    rw [readNumber_toString, one]
    rfl
  next several =>
    split
    next none =>
      subst none
      have read := readRange?_pair first 0
      rw [String.append_assoc] at read
      exact read
    next some =>
      have read := readRange?_pair (first + 1) count
      rwa [if_neg some, Nat.add_sub_cancel] at read

/-! ### Hunks -/

/-- A line of a hunk: both texts have it, or only the text before, or only the text after. -/
inductive HunkLine where
  | kept (line : Text)
  | removed (line : Text)
  | added (line : Text)
  deriving DecidableEq, Repr

namespace HunkLine

def old? : HunkLine → Option Text
  | .kept line => some line
  | .removed line => some line
  | .added _ => none

def new? : HunkLine → Option Text
  | .kept line => some line
  | .removed _ => none
  | .added line => some line

def text : HunkLine → Text
  | .kept line => Glyph.char ' ' :: line
  | .removed line => Glyph.char '-' :: line
  | .added line => Glyph.char '+' :: line

end HunkLine

/-- A hunk: how many lines stand before it in the two texts, and its lines. -/
structure Hunk where
  left : Nat
  right : Nat
  lines : List HunkLine
  deriving DecidableEq, Repr

namespace Hunk

def old (hunk : Hunk) : List Text := hunk.lines.filterMap HunkLine.old?

def new (hunk : Hunk) : List Text := hunk.lines.filterMap HunkLine.new?

def oldRange (hunk : Hunk) : String := rangeText hunk.left (hunk.left + hunk.old.length)

def newRange (hunk : Hunk) : String := rangeText hunk.right (hunk.right + hunk.new.length)

def text (hunk : Hunk) : Text :=
  Text.ofString s!"@@ -{hunk.oldRange} +{hunk.newRange} @@\n" ++ hunk.lines.flatMap HunkLine.text

def Changes (hunk : Hunk) : Prop := ∃ line ∈ hunk.lines, line.old? = none ∨ line.new? = none

/-- The lines of a hunk are those of the two texts at the ranges that its header states. -/
structure StandsIn (hunk : Hunk) (before after : List Text) : Prop where
  oldRange_eq : readRange? hunk.oldRange = some (hunk.left, hunk.old.length)
  newRange_eq : readRange? hunk.newRange = some (hunk.right, hunk.new.length)
  oldStop_le : hunk.left + hunk.old.length ≤ before.length
  newStop_le : hunk.right + hunk.new.length ≤ after.length
  old_eq : (before.drop hunk.left).take hunk.old.length = hunk.old
  new_eq : (after.drop hunk.right).take hunk.new.length = hunk.new

def Precedes (hunk next : Hunk) : Prop :=
  hunk.left + hunk.old.length ≤ next.left ∧ hunk.right + hunk.new.length ≤ next.right

end Hunk

/-- Hunks turn the lines of one text from a place on into those of another one from a place on: the
lines outside them are equal. -/
inductive Turns : (left right : Nat) → List Text → List Hunk → List Text → Prop
  | rest (left right : Nat) (lines : List Text) : Turns left right lines [] lines
  | hunk {left right : Nat} {before after : List Text} (same : List Text) (hunk : Hunk)
      {rest : List Hunk} (left_eq : hunk.left = left + same.length)
      (right_eq : hunk.right = right + same.length)
      (behind : Turns (hunk.left + hunk.old.length) (hunk.right + hunk.new.length)
        before rest after) :
      Turns left right (same ++ (hunk.old ++ before)) (hunk :: rest) (same ++ (hunk.new ++ after))

/-- Applies hunks to the lines of a text from a place on.  A hunk whose lines are not there cannot
be applied. -/
def patch? : (place : Nat) → List Hunk → List Text → Option (List Text)
  | _, [], lines => some lines
  | place, hunk :: rest, lines =>
    let behind := lines.drop (hunk.left - place)
    if place ≤ hunk.left ∧ hunk.old.isPrefixOf behind then
      (patch? (hunk.left + hunk.old.length) rest (behind.drop hunk.old.length)).map fun patched =>
        lines.take (hunk.left - place) ++ (hunk.new ++ patched)
    else none

variable {left right : Nat} {before after : List Text} {shown : List Hunk}

theorem Turns.patch?_eq (turns : Turns left right before shown after) :
    patch? left shown before = some after := by
  induction turns with
  | rest left right lines => rfl
  | @hunk left right before after same hunk rest left_eq right_eq behind inductionHypothesis =>
      have gap : hunk.left - left = same.length := by omega
      have inside : hunk.old.isPrefixOf (hunk.old ++ before) = true :=
        List.isPrefixOf_iff_prefix.mpr (List.prefix_append _ _)
      unfold patch?
      simp only [gap, List.drop_left, List.take_left]
      rw [if_pos ⟨by omega, inside⟩, inductionHypothesis]
      rfl

theorem Turns.precedes (turns : Turns left right before shown after) :
    (∀ hunk ∈ shown, left ≤ hunk.left ∧ right ≤ hunk.right) ∧ shown.Pairwise Hunk.Precedes := by
  induction turns with
  | rest left right lines => exact ⟨nofun, .nil⟩
  | @hunk left right before after same hunk rest left_eq right_eq behind inductionHypothesis =>
      obtain ⟨later, ordered⟩ := inductionHypothesis
      constructor
      · intro other member
        rcases List.mem_cons.mp member with rfl | among
        · omega
        · have further := later other among
          omega
      · exact .cons later ordered

theorem Turns.standsIn (turns : Turns left right before shown after) {oldFront newFront : List Text}
    (leftPlace : oldFront.length = left) (rightPlace : newFront.length = right) :
    ∀ hunk ∈ shown, hunk.StandsIn (oldFront ++ before) (newFront ++ after) := by
  induction turns generalizing oldFront newFront with
  | rest left right lines => exact nofun
  | @hunk left right before after same hunk rest left_eq right_eq behind inductionHypothesis =>
      have leftFront : (oldFront ++ same).length = hunk.left := by
        rw [List.length_append, leftPlace, left_eq]
      have rightFront : (newFront ++ same).length = hunk.right := by
        rw [List.length_append, rightPlace, right_eq]
      intro other member
      rcases List.mem_cons.mp member with rfl | among
      · rw [← List.append_assoc, ← List.append_assoc newFront]
        refine ⟨readRange?_rangeText _ _, readRange?_rangeText _ _, ?_, ?_, ?_, ?_⟩
        · simp only [List.length_append] at leftFront ⊢
          omega
        · simp only [List.length_append] at rightFront ⊢
          omega
        · rw [← leftFront, List.drop_left, List.take_left]
        · rw [← rightFront, List.drop_left, List.take_left]
      · have oldFront_eq : (oldFront ++ same ++ hunk.old).length = hunk.left + hunk.old.length := by
          rw [List.length_append, leftFront]
        have newFront_eq :
            (newFront ++ same ++ hunk.new).length = hunk.right + hunk.new.length := by
          rw [List.length_append, rightFront]
        have stands := inductionHypothesis oldFront_eq newFront_eq other among
        simpa only [List.append_assoc] using stands

/-! ### What a difference shows -/

def slice (lines : Array Text) (first stop : Nat) : List Text := (lines.extract first stop).toList

theorem slice_append (lines : Array Text) {first middle stop : Nat} (early : first ≤ middle)
    (late : middle ≤ stop) :
    slice lines first middle ++ slice lines middle stop = slice lines first stop := by
  unfold slice
  rw [← Array.toList_append, Array.extract_append_extract, Nat.min_eq_left early,
    Nat.max_eq_right late]

theorem length_slice {lines : Array Text} {first stop : Nat} (within : stop ≤ lines.size) :
    (slice lines first stop).length = stop - first := by
  unfold slice
  rw [Array.length_toList, Array.size_extract, Nat.min_eq_left within]

theorem slice_size (lines : Array Text) : slice lines 0 lines.size = lines.toList := by
  unfold slice
  rw [Array.extract_size]

variable {a b : Array Text} {leftEnd rightEnd : Nat}

theorem Alike.slice_eq {count : Nat} (alike : Alike a b left right count)
    (leftWithin : left + count ≤ a.size) (rightWithin : right + count ≤ b.size) :
    slice a left (left + count) = slice b right (right + count) := by
  apply List.ext_getElem?
  intro k
  unfold slice
  rw [Array.getElem?_toList, Array.getElem?_toList, Array.getElem?_extract, Array.getElem?_extract]
  simp only [Nat.min_eq_left leftWithin, Nat.min_eq_left rightWithin, Nat.add_sub_cancel_left]
  split
  next below => exact alike k below
  · rfl

def Part.lines (a b : Array Text) (part : Part) : List HunkLine :=
  let w := part.window
  if part.equal then (slice a w.left w.leftEnd).map .kept
  else (slice a w.left w.leftEnd).map .removed ++ (slice b w.right w.rightEnd).map .added

theorem showPart_eq (a b : Array Text) (part : Part) :
    showPart a b part = (part.lines a b).flatMap HunkLine.text := by
  unfold showPart Part.lines showLines
  dsimp only
  split
  · rw [List.flatMap_map]
    rfl
  · rw [List.flatMap_append, List.flatMap_map, List.flatMap_map]
    rfl

theorem Part.Sound.lines_eq {part : Part} (sound : part.Sound a b)
    (leftWithin : part.window.leftEnd ≤ a.size) (rightWithin : part.window.rightEnd ≤ b.size) :
    (part.lines a b).filterMap HunkLine.old? = slice a part.window.left part.window.leftEnd ∧
      (part.lines a b).filterMap HunkLine.new? =
        slice b part.window.right part.window.rightEnd := by
  unfold Part.lines
  dsimp only
  split
  next equal =>
    obtain ⟨count, leftStop, rightStop, alike⟩ := sound.equal equal
    have same := alike.slice_eq (leftStop ▸ leftWithin) (rightStop ▸ rightWithin)
    rw [← leftStop, ← rightStop] at same
    constructor
    · simp [List.filterMap_map, Function.comp_def, HunkLine.old?]
    · simp [List.filterMap_map, Function.comp_def, HunkLine.new?, same]
  · constructor
    · simp [List.filterMap_append, List.filterMap_map, Function.comp_def, HunkLine.old?]
    · simp [List.filterMap_append, List.filterMap_map, Function.comp_def, HunkLine.new?]

def hunkAt (a b : Array Text) (left right : Nat) (group : List Part) : Hunk :=
  ⟨left, right, group.flatMap (Part.lines a b)⟩

theorem Lead.hunkAt_eq {group : List Part} (lead : Lead a b left right group leftEnd rightEnd)
    (leftWithin : leftEnd ≤ a.size) (rightWithin : rightEnd ≤ b.size) :
    (hunkAt a b left right group).old = slice a left leftEnd ∧
      (hunkAt a b left right group).new = slice b right rightEnd := by
  unfold hunkAt Hunk.old Hunk.new
  simp only
  induction group generalizing left right with
  | nil =>
      obtain ⟨rfl, rfl⟩ := lead
      simp [slice]
  | cons part rest inductionHypothesis =>
      obtain ⟨rfl, rfl, sound, behind⟩ := lead
      have further := behind.le
      obtain ⟨old_eq, new_eq⟩ := sound.lines_eq (Nat.le_trans further.1 leftWithin)
        (Nat.le_trans further.2 rightWithin)
      obtain ⟨oldRest, newRest⟩ := inductionHypothesis behind
      rw [List.flatMap_cons, List.filterMap_append, List.filterMap_append, old_eq, new_eq, oldRest,
        newRest]
      exact ⟨slice_append a sound.left_le further.1, slice_append b sound.right_le further.2⟩

theorem Lead.getLast?_window {group : List Part} {part : Part}
    (lead : Lead a b left right group leftEnd rightEnd) (last : group.getLast? = some part) :
    part.window.leftEnd = leftEnd ∧ part.window.rightEnd = rightEnd := by
  obtain ⟨front, rfl⟩ := List.getLast?_eq_some_iff.mp last
  obtain ⟨leftStop, rightStop, -, -, -, -, leftEnd_eq, rightEnd_eq⟩ := lead_append.mp lead
  exact ⟨leftEnd_eq, rightEnd_eq⟩

theorem Lead.showHunk_eq {group : List Part} (lead : Lead a b left right group leftEnd rightEnd)
    (leftWithin : leftEnd ≤ a.size) (rightWithin : rightEnd ≤ b.size) (some_ : group ≠ []) :
    showHunk a b group = (hunkAt a b left right group).text := by
  obtain ⟨old_eq, new_eq⟩ := lead.hunkAt_eq leftWithin rightWithin
  have inside := lead.le
  have leftStop : left + (slice a left leftEnd).length = leftEnd := by
    rw [length_slice leftWithin]
    omega
  have rightStop : right + (slice b right rightEnd).length = rightEnd := by
    rw [length_slice rightWithin]
    omega
  have oldRange : (hunkAt a b left right group).oldRange = rangeText left leftEnd := by
    unfold Hunk.oldRange
    rw [old_eq]
    change rangeText left (left + _) = _
    rw [leftStop]
  have newRange : (hunkAt a b left right group).newRange = rangeText right rightEnd := by
    unfold Hunk.newRange
    rw [new_eq]
    change rangeText right (right + _) = _
    rw [rightStop]
  unfold Hunk.text showHunk
  rw [oldRange, newRange]
  cases last : group.getLast? with
  | none => exact absurd (List.getLast?_eq_none_iff.mp last) some_
  | some part =>
      obtain ⟨leftEnd_eq, rightEnd_eq⟩ := lead.getLast?_window last
      cases group with
      | nil => exact absurd rfl some_
      | cons first rest =>
          obtain ⟨leftPlace, rightPlace, -, -⟩ := lead
          simp only [List.head?_cons, leftPlace, rightPlace, leftEnd_eq, rightEnd_eq]
          congr 1
          unfold hunkAt
          simp only [List.flatMap_assoc, funext (showPart_eq a b)]

theorem Lead.changes {group : List Part} (lead : Lead a b left right group leftEnd rightEnd)
    (leftWithin : leftEnd ≤ a.size) (rightWithin : rightEnd ≤ b.size)
    (changes : hasChange group = true) : (hunkAt a b left right group).Changes := by
  obtain ⟨part, member, change⟩ := List.any_eq_true.mp changes
  have unequal : part.equal = false := by simpa using change
  obtain ⟨front, back, rfl⟩ := List.append_of_mem member
  obtain ⟨leftPlace, rightPlace, -, rfl, rfl, sound, behind⟩ := lead_append.mp lead
  have further := behind.le
  have among {line : HunkLine} (shown : line ∈ part.lines a b) :
      line ∈ (hunkAt a b left right (front ++ part :: back)).lines :=
    List.mem_flatMap.mpr ⟨part, member, shown⟩
  have lines_eq : part.lines a b = (slice a part.window.left part.window.leftEnd).map .removed ++
      (slice b part.window.right part.window.rightEnd).map .added := by
    simp [Part.lines, unequal]
  rcases sound.change unequal with removes | adds
  · have some_ : slice a part.window.left part.window.leftEnd ≠ [] := by
      apply List.ne_nil_of_length_pos
      rw [length_slice (Nat.le_trans further.1 leftWithin)]
      omega
    obtain ⟨line, rest, slice_eq⟩ := List.exists_cons_of_ne_nil some_
    refine ⟨.removed line, among ?_, .inr rfl⟩
    simp [lines_eq, slice_eq]
  · have some_ : slice b part.window.right part.window.rightEnd ≠ [] := by
      apply List.ne_nil_of_length_pos
      rw [length_slice (Nat.le_trans further.2 rightWithin)]
      omega
    obtain ⟨line, rest, slice_eq⟩ := List.exists_cons_of_ne_nil some_
    refine ⟨.added line, among ?_, .inl rfl⟩
    simp [lines_eq, slice_eq]

/-- Groups of parts with changes show hunks that turn one text into the other. -/
theorem Spread.exists_hunks {groups : List (List Part)}
    (spread : Spread a b left right groups leftEnd rightEnd) (leftWithin : leftEnd ≤ a.size)
    (rightWithin : rightEnd ≤ b.size) (changes : ∀ group ∈ groups, hasChange group = true) :
    ∃ hunks, groups.flatMap (showHunk a b) = hunks.flatMap Hunk.text ∧
      hunks.length = groups.length ∧ (∀ hunk ∈ hunks, hunk.Changes) ∧
      Turns left right (slice a left leftEnd) hunks (slice b right rightEnd) := by
  induction groups generalizing left right with
  | nil =>
      obtain ⟨count, alike, rfl, rfl⟩ := spread
      refine ⟨[], rfl, rfl, nofun, ?_⟩
      rw [alike.slice_eq leftWithin rightWithin]
      exact .rest left right _
  | cons group rest inductionHypothesis =>
      obtain ⟨skipped, leftStop, rightStop, alike, lead, behind⟩ := spread
      have further := behind.le
      have inside := lead.le
      have leftStopWithin := Nat.le_trans further.1 leftWithin
      have rightStopWithin := Nat.le_trans further.2 rightWithin
      have change := changes group List.mem_cons_self
      obtain ⟨hunks, shown, size, changing, turns⟩ := inductionHypothesis behind
        fun later member => changes later (List.mem_cons_of_mem _ member)
      obtain ⟨old_eq, new_eq⟩ := lead.hunkAt_eq leftStopWithin rightStopWithin
      have some_ : group ≠ [] := by
        rintro rfl
        exact absurd change (by decide)
      have same := alike.slice_eq (Nat.le_trans inside.1 leftStopWithin)
        (Nat.le_trans inside.2 rightStopWithin)
      refine ⟨hunkAt a b (left + skipped) (right + skipped) group :: hunks, ?_, ?_, ?_, ?_⟩
      · rw [List.flatMap_cons, List.flatMap_cons, shown,
          lead.showHunk_eq leftStopWithin rightStopWithin some_]
      · rw [List.length_cons, List.length_cons, size]
      · intro hunk member
        rcases List.mem_cons.mp member with rfl | among
        · exact lead.changes leftStopWithin rightStopWithin change
        · exact changing hunk among
      · have leftCut : slice a left leftEnd = slice a left (left + skipped) ++
            (slice a (left + skipped) leftStop ++ slice a leftStop leftEnd) := by
          rw [slice_append a inside.1 further.1, slice_append a (by omega) (by omega)]
        have rightCut : slice b right rightEnd = slice b right (right + skipped) ++
            (slice b (right + skipped) rightStop ++ slice b rightStop rightEnd) := by
          rw [slice_append b inside.2 further.2, slice_append b (by omega) (by omega)]
        rw [leftCut, rightCut, ← same, ← old_eq, ← new_eq]
        apply Turns.hunk
        · rw [length_slice (Nat.le_trans inside.1 leftStopWithin), Nat.add_sub_cancel_left]
          rfl
        · rw [length_slice (Nat.le_trans inside.1 leftStopWithin), Nat.add_sub_cancel_left]
          rfl
        · have leftPlace : left + skipped + (slice a (left + skipped) leftStop).length =
              leftStop := by
            rw [length_slice leftStopWithin]
            omega
          have rightPlace : right + skipped + (slice b (right + skipped) rightStop).length =
              rightStop := by
            rw [length_slice rightStopWithin]
            omega
          rw [old_eq, new_eq]
          change Turns (left + skipped + _) (right + skipped + _) _ _ _
          rw [leftPlace, rightPlace]
          exact turns

def titles (path : String) : Text :=
  Text.ofString s!"--- {path} (original)\n+++ {path} (processed)\n"

theorem titles_ne_nil (path : String) : titles path ≠ [] := by
  intro empty
  unfold titles at empty
  rw [Text.ofString_append, List.append_eq_nil_iff] at empty
  exact absurd empty.2 (by decide)

theorem diff_eq_of_hunks_eq_nil {path : String} {s t : Text}
    (none : hunks (parts s.lines.toArray t.lines.toArray) = []) : diff path s t = [] := by
  unfold diff
  simp only [none]

theorem diff_eq_of_hunks_ne_nil {path : String} {s t : Text}
    (some_ : hunks (parts s.lines.toArray t.lines.toArray) ≠ []) :
    diff path s t = titles path ++ (hunks (parts s.lines.toArray t.lines.toArray)).flatMap
      (showHunk s.lines.toArray t.lines.toArray) := by
  unfold diff
  dsimp only
  split
  next none => exact absurd none some_
  · rfl

theorem Turns.eq_of_nil (turns : Turns left right before [] after) : before = after := by
  cases turns
  rfl

/-- The difference of two texts is empty exactly if they are equal.  Otherwise it names the file and
shows hunks: each of them holds a change and stands in both texts at the ranges that its header
states, they follow one another, the lines outside them are equal in both texts, and applying them
to the lines of the one text gives those of the other. -/
theorem diff_exact (path : String) (before after : Text) :
    (diff path before after = [] ↔ before = after) ∧
      (before ≠ after → ∃ hunks : List Hunk, hunks ≠ [] ∧
        diff path before after = titles path ++ hunks.flatMap Hunk.text ∧
        (∀ hunk ∈ hunks, hunk.Changes ∧ hunk.StandsIn before.lines after.lines) ∧
        hunks.Pairwise Hunk.Precedes ∧
        Turns 0 0 before.lines hunks after.lines ∧
        patch? 0 hunks before.lines = some after.lines) := by
  have changes : ∀ group ∈ hunks (parts before.lines.toArray after.lines.toArray),
      hasChange group = true := by
    intro group member
    rw [hunks_eq] at member
    exact (List.mem_filter.mp member).2
  obtain ⟨shown, shown_eq, size, changing, turns⟩ :=
    (hunks_spread before.lines.toArray after.lines.toArray).exists_hunks (Nat.le_refl _)
      (Nat.le_refl _) changes
  rw [slice_size, slice_size, List.toList_toArray, List.toList_toArray] at turns
  have some_ (differ : before ≠ after) : shown ≠ [] := by
    intro none
    rw [none] at turns
    exact differ (Text.lines_injective turns.eq_of_nil)
  have written (differ : before ≠ after) :
      diff path before after = titles path ++ shown.flatMap Hunk.text := by
    rw [← shown_eq]
    apply diff_eq_of_hunks_ne_nil
    intro none
    rw [none] at size
    exact some_ differ (List.length_eq_zero_iff.mp size)
  constructor
  · constructor
    · intro empty
      by_contra differ
      rw [written differ] at empty
      exact titles_ne_nil path (List.append_eq_nil_iff.mp empty).1
    · intro same
      subst same
      exact diff_eq_of_hunks_eq_nil (hunks_self before.lines.toArray)
  · intro differ
    have stands : ∀ hunk ∈ shown, hunk.StandsIn ([] ++ before.lines) ([] ++ after.lines) :=
      turns.standsIn rfl rfl
    exact ⟨shown, some_ differ, written differ,
      fun hunk member => ⟨changing hunk member, stands hunk member⟩, turns.precedes.2, turns,
      turns.patch?_eq⟩

/-- A last line without an end is followed directly by the line that takes its place. -/
theorem diff_exact_of_last_line :
    let before := Text.ofString "a\nb"
    let after := Text.ofString "a\nc"
    before ≠ after ∧ diff "x" before after =
      Text.ofString "--- x (original)\n+++ x (processed)\n@@ -1,2 +1,2 @@\n a\n-b+c" ∧
    ∃ hunks : List Hunk, diff "x" before after = titles "x" ++ hunks.flatMap Hunk.text ∧
      patch? 0 hunks before.lines = some after.lines := by
  intro before after
  have differ : before ≠ after := by decide
  obtain ⟨hunks, -, shown, -, -, -, patched⟩ := (diff_exact "x" before after).2 differ
  exact ⟨differ, by decide +kernel, hunks, shown, patched⟩

end Source

end WarningSweep
