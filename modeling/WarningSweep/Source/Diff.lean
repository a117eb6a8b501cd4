import WarningSweep.Text.Basic

/-!
# Differences of two texts

Two texts are compared line by line. The longest run of lines that both have is matched first, then
what stands before and after it in the same way. In a long text, lines that are very common are not
used to find a run, but a run found is extended over them.

A difference is shown in hunks. A hunk holds changes with up to three equal lines before, between
and after them, and starts with the ranges of lines that it covers.
-/

namespace WarningSweep.Source

/-- `count` lines from `left` on in one text are the lines from `right` on in the other. -/
structure Run where
  left : Nat
  right : Nat
  count : Nat
  deriving DecidableEq, Repr, Inhabited

/-- Lines `left .. leftEnd` of one text and `right .. rightEnd` of the other, ends excluded. -/
structure Window where
  left : Nat
  leftEnd : Nat
  right : Nat
  rightEnd : Nat
  deriving DecidableEq, Repr, Inhabited

/-- Texts of this many lines have common lines. -/
def longText : Nat := 200

/-- For each line of `a`, where it stands in `b`; nowhere if it is common in a long text. -/
def anchors (a b : Array Text) : Array (List Nat) :=
  a.map fun line =>
    let places := (List.range b.size).filter fun j => b[j]? = some line
    if longText ≤ b.size ∧ b.size / 100 + 1 < places.length then [] else places

/-- The runs that end at one line of `a`: for each end in `b` the number of lines. -/
abbrev Ends := List (Nat × Nat)

/-- The runs that end one line later, given where that line stands in `b`. -/
def extendEnds (ends : Ends) (places : List Nat) : Ends :=
  places.map fun j => (j, (if j = 0 then 0 else (ends.lookup (j - 1)).getD 0) + 1)

/-- The better of the best run so far and those that end at line `i`: only a longer one is
better. -/
def bestEnding (i : Nat) (best : Run) (ends : Ends) : Run :=
  ends.foldl (fun best (j, k) => if best.count < k then ⟨i + 1 - k, j + 1 - k, k⟩ else best) best

/-- The longest run in a window that starts from anchors, the first one of several. -/
def longestRun (places : Array (List Nat)) (w : Window) : Run :=
  let lines := List.range' w.left (w.leftEnd - w.left)
  (lines.foldl (fun (best, ends) i =>
    let here := ((places[i]?).getD []).filter fun j => w.right ≤ j && j < w.rightEnd
    let ends := extendEnds ends here
    (bestEnding i best ends, ends)) ((⟨w.left, w.right, 0⟩, []) : Run × Ends)).1

def growFront (a b : Array Text) (w : Window) : (steps : Nat) → Run → Run
  | 0, run => run
  | steps + 1, run =>
    if w.left < run.left ∧ w.right < run.right ∧ a[run.left - 1]? = b[run.right - 1]? then
      growFront a b w steps ⟨run.left - 1, run.right - 1, run.count + 1⟩
    else run

def growBack (a b : Array Text) (w : Window) : (steps : Nat) → Run → Run
  | 0, run => run
  | steps + 1, run =>
    if run.left + run.count < w.leftEnd ∧ run.right + run.count < w.rightEnd
        ∧ a[run.left + run.count]? = b[run.right + run.count]? then
      growBack a b w steps { run with count := run.count + 1 }
    else run

def matchWindow (a b : Array Text) (places : Array (List Nat)) (w : Window) : Run :=
  let size := w.leftEnd - w.left
  growBack a b w size (growFront a b w size (longestRun places w))

/-- The matched runs of a window in order; `depth` bounds how often a window is divided. -/
def matchedRuns (a b : Array Text) (places : Array (List Nat)) : (depth : Nat) → Window → List Run
  | 0, _ => []
  | depth + 1, w =>
    let run := matchWindow a b places w
    if run.count = 0 then []
    else
      let before : Window := ⟨w.left, run.left, w.right, run.right⟩
      let after : Window := ⟨run.left + run.count, w.leftEnd, run.right + run.count, w.rightEnd⟩
      (if before.left < before.leftEnd ∧ before.right < before.rightEnd then
        matchedRuns a b places depth before else [])
        ++ run :: (if after.left < after.leftEnd ∧ after.right < after.rightEnd then
          matchedRuns a b places depth after else [])

/-- Runs that follow directly on one another become one. -/
def joinRuns : List Run → List Run
  | [] => []
  | run :: rest =>
    match joinRuns rest with
    | [] => [run]
    | next :: more =>
      if run.left + run.count = next.left ∧ run.right + run.count = next.right then
        { run with count := run.count + next.count } :: more
      else run :: next :: more

/-- A part of a comparison: lines that are equal, or lines of one text in place of lines of the
other. -/
structure Part where
  equal : Bool
  window : Window
  deriving DecidableEq, Repr, Inhabited

def partsFrom (left right leftEnd rightEnd : Nat) : List Run → List Part
  | [] =>
    if left < leftEnd ∨ right < rightEnd then [⟨false, ⟨left, leftEnd, right, rightEnd⟩⟩] else []
  | run :: rest =>
    let change : List Part :=
      if left < run.left ∨ right < run.right then [⟨false, ⟨left, run.left, right, run.right⟩⟩]
      else []
    change ++ ⟨true, ⟨run.left, run.left + run.count, run.right, run.right + run.count⟩⟩
      :: partsFrom (run.left + run.count) (run.right + run.count) leftEnd rightEnd rest

def parts (a b : Array Text) : List Part :=
  let runs := matchedRuns a b (anchors a b) (a.size + 1) ⟨0, a.size, 0, b.size⟩
  partsFrom 0 0 a.size b.size (joinRuns runs)

def contextSize : Nat := 3

namespace Window

def last (w : Window) (n : Nat) : Window :=
  { w with left := max w.left (w.leftEnd - n), right := max w.right (w.rightEnd - n) }

def first (w : Window) (n : Nat) : Window :=
  { w with leftEnd := min w.leftEnd (w.left + n), rightEnd := min w.rightEnd (w.right + n) }

end Window

/-- Equal lines at the start and at the end are shown only as context. -/
def trimEnds (parts : List Part) : List Part :=
  let front : List Part := match parts with
    | ⟨true, w⟩ :: rest => ⟨true, w.last contextSize⟩ :: rest
    | _ => parts
  match front.getLast? with
  | some ⟨true, w⟩ => front.dropLast ++ [⟨true, w.first contextSize⟩]
  | _ => front

/-- Cuts the parts into hunks at every stretch of equal lines that is too long for one context. -/
def hunksFrom (hunk : List Part) : List Part → List (List Part)
  | [] => [hunk]
  | part :: rest =>
    let w := part.window
    if part.equal && 2 * contextSize < w.leftEnd - w.left then
      (hunk ++ [⟨true, w.first contextSize⟩])
        :: hunksFrom [⟨true, w.last contextSize⟩] rest
    else hunksFrom (hunk ++ [part]) rest

def hunks (parts : List Part) : List (List Part) :=
  (hunksFrom [] (trimEnds parts)).filter fun hunk => hunk.any fun part => !part.equal

/-- A range of lines: the first one counted from one, and how many unless it is one. An empty range
gives the line before it. -/
def rangeText (first stop : Nat) : String :=
  let count := stop - first
  if count = 1 then toString (first + 1)
  else if count = 0 then s!"{first},0"
  else s!"{first + 1},{count}"

def showLines (mark : Char) (lines : Array Text) (first stop : Nat) : Text :=
  (lines.extract first stop).toList.flatMap fun line => Glyph.char mark :: line

def showPart (a b : Array Text) (part : Part) : Text :=
  let w := part.window
  if part.equal then showLines ' ' a w.left w.leftEnd
  else showLines '-' a w.left w.leftEnd ++ showLines '+' b w.right w.rightEnd

def showHunk (a b : Array Text) (hunk : List Part) : Text :=
  match hunk.head?, hunk.getLast? with
  | some first, some last =>
    let left := rangeText first.window.left last.window.leftEnd
    let right := rangeText first.window.right last.window.rightEnd
    Text.ofString s!"@@ -{left} +{right} @@\n" ++ hunk.flatMap (showPart a b)
  | _, _ => []

/-- The difference of a file before and after; nothing if there is none. -/
def diff (path : String) (before after : Text) : Text :=
  let a := before.lines.toArray
  let b := after.lines.toArray
  match hunks (parts a b) with
  | [] => []
  | shown =>
    Text.ofString s!"--- {path} (original)\n+++ {path} (processed)\n" ++
      shown.flatMap (showHunk a b)

end WarningSweep.Source
