import WarningSweep.Buffer
import WarningSweep.Log.Record
import WarningSweep.Marker.Basic
import WarningSweep.Text.Basic
import WarningSweep.Text.Quoted

/-!
# Sweeping a source text

A sweep takes the markers out of a text and removes the warning before each leaf region that does
not need one. A region is a leaf when its END follows its START with no marker between them. A START
keeps the warnings written before, so a region can only lose a warning that stands in its own
content or in the plain text directly before it. Regions are read one inside the other, and a text
whose regions lie deeper than there is room for is not swept.
-/

namespace WarningSweep

/-! ## The leaf rule

A region without regions inside holds the argument of a formatting call. Its warning may go only
when the argument is a string literal, or a call of the macro that makes constant strings, and every
conversion in it has the same size on 32 and 64 bits.
-/

structure LeafRule where
  literalWord : String := "CFSTR"
  deriving DecidableEq, Repr, Inhabited

namespace LeafRule

def literalHeads (rule : LeafRule) : List Text := ["\"", "@\"", rule.literalWord]

def isLiteral (rule : LeafRule) (content : Text) : Bool :=
  rule.literalHeads.any fun head => head.isPrefixOf content.trimLeft

/-- The flags that may stand between the percent sign and its conversion. -/
def isFlag (g : Glyph) : Bool := (Text.ofString "#0-+ ").contains g

def isSafeConversion (g : Glyph) : Bool := (Text.ofString "@sScCpl").contains g

/-- The first percent sign whose conversion is not safe, with its flags and that conversion. -/
def unsafeConversion? : Text → Option Text
  | [] => none
  | g :: rest =>
    if g = .char '%' then
      match rest.dropWhile isFlag with
      | c :: _ =>
        if isSafeConversion c then unsafeConversion? rest
        else some (g :: rest.takeWhile isFlag ++ [c])
      | [] => unsafeConversion? rest
    else unsafeConversion? rest

def needsWarning (rule : LeafRule) (content : Text) : Bool :=
  !rule.isLiteral content || (unsafeConversion? content).isSome

/-- The record of the conversion that made a literal keep its warning. -/
def log (rule : LeafRule) (content : Text) : List Log.Record :=
  match rule.isLiteral content, unsafeConversion? content with
  | true, some found =>
    [Log.Channel.leaf.debug s!"Unsafe conversion {found.quoted} in {content.quoted}"]
  | _, _ => []

end LeafRule

/-! ## The sweep -/

structure Sweep where
  markers : Markers
  warningHead : Text
  rule : LeafRule
  /-- How many regions a region may lie in. -/
  room : Nat

/-- How many regions a sweep met, how many of them keep their warning, and how many warning lines it
removed. -/
structure Summary where
  regions : Nat := 0
  kept : Nat := 0
  removed : Nat := 0
  deriving DecidableEq, Repr, Inhabited

namespace Sweep

/-- The head of the warnings that sources carry unless the settings say otherwise. -/
def standardWarningHead : String := "#warning 64BIT: Check formatting arguments"

/-- The state between two pieces; `last` is the marker before. -/
structure State where
  buffer : Buffer := {}
  last : Option Mark := none
  summary : Summary := {}
  log : List Log.Record := []
  deriving DecidableEq, Repr, Inhabited

def keeps (sweep : Sweep) (leaf : Bool) (content : Text) : Bool :=
  !leaf || sweep.rule.needsWarning content || content.trim = []

def judgeLog (sweep : Sweep) (leaf : Bool) (content : Text) : List Log.Record :=
  if leaf then sweep.rule.log content else []

def enter (sweep : Sweep) (state : State) (before : Text) : State :=
  { state with
    buffer := state.buffer.forget.append sweep.warningHead before
    last := some .start }

def leave (sweep : Sweep) (state : State) (content : Text) : State :=
  let leaf := state.last = some .start
  let buffer := state.buffer.append sweep.warningHead content
  let summary := { state.summary with regions := state.summary.regions + 1 }
  let log := state.log ++ sweep.judgeLog leaf content
  if sweep.keeps leaf content then
    { buffer := buffer.forget, last := some .stop, log
      summary := { summary with kept := summary.kept + 1 } }
  else
    match buffer.remove? with
    | none => { buffer, last := some .stop, log, summary }
    | some shorter =>
      { buffer := shorter
        last := some .stop
        log := log ++ [Log.Channel.sweep.debug s!"Removed warning before {content.trim.quoted}"]
        summary := { summary with removed := summary.removed + 1 } }

def step (sweep : Sweep) (state : State) (piece : Piece) : State :=
  match piece.mark with
  | .start => sweep.enter state piece.before
  | .stop => sweep.leave state piece.before

def walk (sweep : Sweep) (pieces : List Piece) : State := pieces.foldl sweep.step {}

/-- The text after the blank lines that start it: spaces and tabs, then a line end. -/
def dropBlankLines (t : Text) : Text :=
  match _ : t.dropWhile Text.isIndent with
  | .char '\n' :: rest => dropBlankLines rest
  | .char '\r' :: .char '\n' :: rest => dropBlankLines rest
  | _ => t
termination_by t.length
decreasing_by
  all_goals
    have shorter := (List.dropWhile_suffix (l := t) Text.isIndent).length_le
    simp_all only [List.length_cons]
    omega

def summaryMessage (summary : Summary) : String :=
  s!"Processed {summary.regions} regions: {summary.removed} warnings removed, {summary.kept} kept"

structure Outcome where
  text : Text
  summary : Summary
  deriving DecidableEq, Repr, Inhabited

/-- Sweeps a text whose markers pair up and whose regions there is room for; no output is produced
for any other text. -/
def run (sweep : Sweep) (t : Text) : Except RegionFault Outcome :=
  let (pieces, tail) := sweep.markers.pieces t
  match RegionFault.find? sweep.room [] pieces with
  | some fault => .error fault
  | none =>
    let state := sweep.walk pieces
    .ok ⟨dropBlankLines (state.buffer.append sweep.warningHead tail).text, state.summary⟩

def log (sweep : Sweep) (t : Text) : List Log.Record :=
  let (pieces, _) := sweep.markers.pieces t
  match RegionFault.find? sweep.room [] pieces with
  | some fault => (sweep.walk (fault.reached pieces)).log
  | none =>
    let state := sweep.walk pieces
    state.log ++ [Log.Channel.sweep.debug (summaryMessage state.summary)]

end Sweep

end WarningSweep
