import WarningSweep.Text.Basic

/-!
# Region markers

A region of the source stands between a START and an END marker. A text is read from left to right
as pieces, each the plain text up to the next marker with that marker, and a tail without markers.
-/

namespace WarningSweep

/-- Two different texts, neither of them empty. -/
structure Markers where
  start : Text
  stop : Text
  start_ne_nil : start ≠ []
  stop_ne_nil : stop ≠ []
  start_ne_stop : start ≠ stop

inductive Mark where
  | start
  | stop
  deriving DecidableEq, Repr, Inhabited

namespace Markers

/-- The markers that sources carry unless the settings say otherwise. -/
def standardStart : String := "/*<64BIT-FORMAT>*/"

def standardStop : String := "/*</64BIT-FORMAT>*/"

inductive Invalid where
  | empty
  | same
  deriving DecidableEq, Repr

def Invalid.message : Invalid → String
  | .empty => "start_marker and end_marker must not be empty"
  | .same => "start_marker and end_marker must differ"

def ofTexts (start stop : Text) : Except Invalid Markers :=
  if empty : start = [] ∨ stop = [] then .error .empty
  else if same : start = stop then .error .same
  else .ok ⟨start, stop, fun h => empty (.inl h), fun h => empty (.inr h), same⟩

/-- The marker that starts `t` and the text after it. Where both start it, which is possible when
one begins with the other, START goes first inside a region and END goes first outside. -/
def at? (markers : Markers) (inside : Bool) (t : Text) : Option (Mark × Text) :=
  let start := (Text.after? markers.start t).map fun rest => (Mark.start, rest)
  let stop := (Text.after? markers.stop t).map fun rest => (Mark.stop, rest)
  if inside then start.or stop else stop.or start

/-- The plain text before the first marker, that marker and the text after it. -/
def next? (markers : Markers) (inside : Bool) : Text → Option (Text × Mark × Text)
  | [] => none
  | g :: t =>
    match markers.at? inside (g :: t) with
    | some (mark, rest) => some ([], mark, rest)
    | none => (markers.next? inside t).map fun found => (g :: found.1, found.2)

def ofMark (markers : Markers) : Mark → Text
  | .start => markers.start
  | .stop => markers.stop

theorem ofMark_ne_nil (markers : Markers) (mark : Mark) : markers.ofMark mark ≠ [] := by
  cases mark
  · exact markers.start_ne_nil
  · exact markers.stop_ne_nil

theorem eq_of_at?_eq_some {markers : Markers} {inside : Bool} {t rest : Text} {mark : Mark}
    (found : markers.at? inside t = some (mark, rest)) : t = markers.ofMark mark ++ rest := by
  cases inside <;> cases mark <;> simp [at?, Text.after?_eq_some_iff] at found <;>
    simp [ofMark, found]

theorem eq_of_next?_eq_some {markers : Markers} {inside : Bool} {t before rest : Text} {mark : Mark}
    (found : markers.next? inside t = some (before, mark, rest)) :
    t = before ++ markers.ofMark mark ++ rest := by
  induction t generalizing before with
  | nil => simp [next?] at found
  | cons g t ih =>
    unfold next? at found
    split at found
    · rename_i at_start
      simp only [Option.some.injEq, Prod.mk.injEq] at found
      obtain ⟨rfl, rfl, rfl⟩ := found
      simpa using eq_of_at?_eq_some at_start
    · simp only [Option.map_eq_some_iff, Prod.mk.injEq] at found
      obtain ⟨⟨front, tail⟩, later, rfl, rfl⟩ := found
      simp [ih later]

theorem length_lt_of_next?_eq_some {markers : Markers} {inside : Bool} {t before rest : Text}
    {mark : Mark} (found : markers.next? inside t = some (before, mark, rest)) :
    rest.length < t.length := by
  have size := congrArg List.length (eq_of_next?_eq_some found)
  have marker := List.length_pos_iff.mpr (markers.ofMark_ne_nil mark)
  simp only [List.length_append] at size
  omega

end Markers

/-- The plain text before a marker, the marker, and the marker's offset in the whole text.
`stopAhead` says whether the END marker occurs anywhere in the rest of the text, this piece
included. -/
structure Piece where
  before : Text
  mark : Mark
  offset : Nat
  stopAhead : Bool
  deriving DecidableEq, Repr, Inhabited

def Mark.depthAfter (mark : Mark) (depth : Nat) : Nat :=
  match mark with
  | .start => depth + 1
  | .stop => depth - 1

/-- The pieces and the tail of `t`, which stands at `offset` inside `depth` regions. -/
def Markers.scan (markers : Markers) (depth offset : Nat) (t : Text) : List Piece × Text :=
  match _ : markers.next? (depth ≠ 0) t with
  | none => ([], t)
  | some (before, mark, rest) =>
    let piece : Piece := ⟨before, mark, offset + before.length, Text.occurs markers.stop t⟩
    let length := (markers.ofMark mark).length
    let (pieces, tail) := markers.scan (mark.depthAfter depth) (piece.offset + length) rest
    (piece :: pieces, tail)
termination_by t.length
decreasing_by exact Markers.length_lt_of_next?_eq_some ‹_›

def Markers.pieces (markers : Markers) (t : Text) : List Piece × Text := markers.scan 0 0 t

def Piece.plain (pieces : List Piece) (tail : Text) : Text := pieces.flatMap Piece.before ++ tail

/-- How the markers of a text fail to pair up: an END outside all regions, or a START whose region
never ends, each with its offset. -/
inductive MarkerFault where
  | unopened (offset : Nat)
  | unclosed (offset : Nat)
  deriving DecidableEq, Repr

namespace MarkerFault

def offset : MarkerFault → Nat
  | .unopened offset => offset
  | .unclosed offset => offset

def message : MarkerFault → String
  | .unopened offset => s!"END marker without matching START at offset {offset}"
  | .unclosed offset => s!"START marker without matching END at offset {offset}"

end MarkerFault

/-- Why the regions of a text are not read to the end: its markers do not pair up, or the START at
this offset stands in more regions than there is room for. -/
inductive RegionFault where
  | markers (fault : MarkerFault)
  | tooDeep (offset : Nat)
  deriving DecidableEq, Repr

namespace RegionFault

/-- Reads pieces inside the regions whose START offsets are `opened`, the innermost first; a region
may lie in `room` others. A region is reported as soon as no END is left for it, and one that is too
deep as soon as its START is met. -/
def find? (room : Nat) : (opened : List Nat) → List Piece → Option RegionFault
  | [], [] => none
  | start :: _, [] => some (.markers (.unclosed start))
  | [], piece :: pieces =>
    match piece.mark with
    | .start => find? room [piece.offset] pieces
    | .stop => some (.markers (.unopened piece.offset))
  | start :: outer, piece :: pieces =>
    if !piece.stopAhead then some (.markers (.unclosed start))
    else
      match piece.mark with
      | .start =>
        if room < (start :: outer).length then some (.tooDeep piece.offset)
        else find? room (piece.offset :: start :: outer) pieces
      | .stop => find? room outer pieces

def reached (fault : RegionFault) (pieces : List Piece) : List Piece :=
  match fault with
  | .markers (.unclosed _) => pieces
  | .markers (.unopened offset) => pieces.takeWhile fun piece => piece.offset ≠ offset
  | .tooDeep offset => pieces.takeWhile fun piece => piece.offset ≠ offset

end RegionFault

end WarningSweep
