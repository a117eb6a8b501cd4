/-!
# Source text

A source file is a sequence of glyphs. A glyph is a decoded character, or a byte that belongs to no
well-formed UTF-8 sequence and is carried along unchanged, so that no input byte is ever lost.
-/

namespace WarningSweep

inductive Glyph where
  | char (c : Char)
  | byte (b : UInt8)
  deriving DecidableEq, Repr, Inhabited

abbrev Text := List Glyph

abbrev Bytes := List UInt8

instance : Coe Char Glyph := ⟨Glyph.char⟩

namespace Text

def ofString (s : String) : Text := s.toList.map Glyph.char

instance : Coe String Text := ⟨ofString⟩

@[simp] theorem ofString_append (s t : String) : ofString (s ++ t) = ofString s ++ ofString t := by
  simp [ofString]

def toString? (t : Text) : Option String :=
  (t.mapM fun
    | Glyph.char c => some c
    | Glyph.byte _ => none).map String.ofList

def newline : Glyph := .char '\n'

/-- A space or a tab, the blanks that may stand before a warning on its line. -/
def isIndent (g : Glyph) : Bool := g == .char ' ' || g == .char '\t'

/-- The offset just after the last newline, or zero when there is none. -/
def lastLineStart (t : Text) : Nat :=
  t.length - (t.reverse.takeWhile (· ≠ newline)).length

def after? : (front t : Text) → Option Text
  | [], t => some t
  | _ :: _, [] => none
  | f :: front, g :: t => if f = g then after? front t else none

theorem after?_eq_some_iff {front t rest : Text} :
    after? front t = some rest ↔ t = front ++ rest := by
  induction front generalizing t with
  | nil => simp [after?, eq_comm]
  | cons f front ih =>
    cases t with
    | nil => simp [after?]
    | cons g t =>
      by_cases same : f = g
      · simp [after?, same, ih]
      · simp [after?, same, Ne.symm same]

theorem after?_eq_none_iff {front t : Text} : after? front t = none ↔ ¬ front <+: t := by
  rw [Option.eq_none_iff_forall_ne_some]
  constructor
  · rintro missing ⟨rest, rfl⟩
    exact missing rest (after?_eq_some_iff.mpr rfl)
  · intro missing rest found
    exact missing ⟨rest, (after?_eq_some_iff.mp found).symm⟩

def occurs (part : Text) : Text → Bool
  | [] => part = []
  | g :: t => (after? part (g :: t)).isSome || occurs part t

theorem occurs_iff {part t : Text} : occurs part t = true ↔ part <:+: t := by
  induction t with
  | nil => simp [occurs]
  | cons g t ih =>
    rw [occurs, Bool.or_eq_true, ih, List.infix_cons_iff, Option.isSome_iff_exists]
    simp only [after?_eq_some_iff, List.IsPrefix, @eq_comm _ (g :: t)]

end Text

/-! ## Blanks

The blank characters are the white space of the character standard together with the four
information separators. A byte that is no character is never blank.
-/

def blankRanges : List (Nat × Nat) :=
  [(0x09, 0x0D), (0x1C, 0x20), (0x85, 0x85), (0xA0, 0xA0), (0x1680, 0x1680), (0x2000, 0x200A),
   (0x2028, 0x2029), (0x202F, 0x202F), (0x205F, 0x205F), (0x3000, 0x3000)]

def isBlank (c : Char) : Bool :=
  blankRanges.any fun range => range.1 ≤ c.toNat && c.toNat ≤ range.2

def Glyph.isBlank : Glyph → Bool
  | .char c => WarningSweep.isBlank c
  | .byte _ => false

namespace Text

def trimLeft (t : Text) : Text := t.dropWhile Glyph.isBlank

def trimRight (t : Text) : Text := (t.reverse.dropWhile Glyph.isBlank).reverse

def trim (t : Text) : Text := t.trimLeft.trimRight

end Text

def trimBlanks (s : String) : String :=
  String.ofList (((s.toList.dropWhile isBlank).reverse.dropWhile isBlank).reverse)

/-! ## Lines

A text is cut into lines at every line end, of which there are eleven: carriage return with line
feed counts as one. Each line is given with its end, which is empty only at the end of the text.
-/

def isLineEnd (c : Char) : Bool :=
  ['\n', '\r', '\x0b', '\x0c', '\x1c', '\x1d', '\x1e', '\u0085', '\u2028', '\u2029'].contains c

def consLine {α : Type} (x : α) : List (List α × List α) → List (List α × List α)
  | [] => [([x], [])]
  | (content, ending) :: lines => (x :: content, ending) :: lines

/-- The lines of a text, where `code` gives the character that a unit of the text stands for. -/
def linesOf {α : Type} (code : α → Option Char) : List α → List (List α × List α)
  | [] => []
  | x :: rest =>
    match code x with
    | none => consLine x (linesOf code rest)
    | some c =>
      if !isLineEnd c then consLine x (linesOf code rest)
      else
        match rest with
        | [] => [([], [x])]
        | y :: more =>
          if c = '\r' ∧ code y = some '\n' then ([], [x, y]) :: linesOf code more
          else ([], [x]) :: linesOf code (y :: more)

def Glyph.char? : Glyph → Option Char
  | .char c => some c
  | .byte _ => none

def Text.lines (t : Text) : List Text := (linesOf Glyph.char? t).map fun line => line.1 ++ line.2

def lineContents (s : String) : List String :=
  (linesOf some s.toList).map fun line => String.ofList line.1

end WarningSweep
