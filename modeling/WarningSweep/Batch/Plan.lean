import WarningSweep.Settings.Basic
import WarningSweep.Sweep

/-!
# Sweeping under settings

Settings say what to look for. A setting that should be a text and is something else stops the sweep
where it is needed: the warning's head and the markers at once, the word that starts literals at the
first leaf that does not start with a quote.
-/

namespace WarningSweep

inductive UseFault where
  | warningHead (value : Value)
  | marker (value : Value)
  | literalWord (value : Value)

namespace UseFault

def message : UseFault → String
  | .warningHead (.bytes _) => "can only concatenate str (not \"bytes\") to str"
  | .warningHead value => s!"decoding to str: need a bytes-like object, {value.kindName} found"
  | .marker value => s!"must be str, not {value.kindName}"
  | .literalWord value => s!"tuple for startswith must only contain str, not {value.kindName}"

end UseFault

inductive Plan where
  | ready (sweep : Sweep)
  /-- All is ready but the word that starts literals, which is given by `word`. -/
  | wordless (sweep : Sweep) (word : Value)
  | blocked (fault : UseFault)

namespace Plan

/-- The plan of settings whose markers can be told apart, for regions that lie in at most `room`
others. -/
def ofSettings (room : Nat) (settings : Settings) : Except Markers.Invalid Plan :=
  if !settings.startMarker.truthy || !settings.stopMarker.truthy then .error .empty
  else if settings.startMarker.same settings.stopMarker then .error .same
  else
    match settings.warningHead, settings.startMarker, settings.stopMarker with
    | .str head, .str start, .str stop => do
      let markers ← Markers.ofTexts start stop
      match settings.literalWord with
      | .str word => return .ready ⟨markers, head, ⟨word⟩, room⟩
      | word => return .wordless ⟨markers, head, {}, room⟩ word
    | .str _, .str _, stop => .ok (.blocked (.marker stop))
    | .str _, start, _ => .ok (.blocked (.marker start))
    | head, _, _ => .ok (.blocked (.warningHead head))

/-- Whether a content begins with a quote, whatever word starts literals. -/
def isQuoted (content : Text) : Bool :=
  [Text.ofString "\"", Text.ofString "@\""].any fun head => head.isPrefixOf content.trimLeft

/-- The pieces before the first leaf that does not start with a quote; `last` is the marker
before. -/
def beforeUnquoted? : (last : Option Mark) → List Piece → Option (List Piece)
  | _, [] => none
  | last, piece :: rest =>
    if piece.mark = .stop ∧ last = some .start ∧ !isQuoted piece.before then some []
    else (beforeUnquoted? (some piece.mark) rest).map (piece :: ·)

def readPieces (sweep : Sweep) (t : Text) : List Piece :=
  let pieces := (sweep.markers.pieces t).1
  match RegionFault.find? sweep.room [] pieces with
  | some fault => fault.reached pieces
  | none => pieces

inductive Fault where
  | regions (fault : RegionFault)
  | use (fault : UseFault)

def run (plan : Plan) (t : Text) : Except Fault Sweep.Outcome :=
  match plan with
  | .ready sweep => (sweep.run t).mapError Fault.regions
  | .wordless sweep word =>
    if (beforeUnquoted? none (readPieces sweep t)).isSome then .error (.use (.literalWord word))
    else (sweep.run t).mapError Fault.regions
  | .blocked fault => .error (.use fault)

def log (plan : Plan) (t : Text) : List Log.Record :=
  match plan with
  | .ready sweep => sweep.log t
  | .wordless sweep _ =>
    match beforeUnquoted? none (readPieces sweep t) with
    | some pieces => (sweep.walk pieces).log
    | none => sweep.log t
  | .blocked _ => []

end Plan

end WarningSweep
