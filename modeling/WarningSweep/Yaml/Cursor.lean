import WarningSweep.Text.Encoding
import WarningSweep.Value.Basic

/-!
# Faults and positions in a document

What every step of reading a document shares: the faults that end it, and the place it has reached.
-/

namespace WarningSweep.Yaml

/-! ## Faults

A document is read in steps, and each step has its own kind of fault. The first step that meets a
fault decides.
-/

/-- Why the text of a scalar is not a value of the type that it is tagged with. -/
inductive ConversionFault where
  /-- A number without any character. -/
  | emptyNumber
  | unknownBool (text : String)
  | badInteger (base : Nat) (text : String)
  /-- More digits than integers are read with. -/
  | tooManyDigits (count : Nat)
  | badFloat (text : String)
  /-- A number beyond the largest double. -/
  | tooLarge
  | notMoment
  /-- A node whose text is needed and that is none. -/
  | notText
  /-- A text that is looked for without an end. -/
  | endless
  | moment (fault : MomentFault)
  /-- An escape for a code point beyond the last one. -/
  | codePoint (code : Nat)
  deriving DecidableEq, Repr

def shownLength : Nat := 200

def ConversionFault.message : ConversionFault → String
  | .emptyNumber => "string index out of range"
  | .unknownBool text => quoted text
  | .badInteger base text =>
    let shown := String.ofList ((quoted text).toList.take shownLength)
    s!"invalid literal for int() with base {base}: {shown}"
  | .tooManyDigits count =>
    s!"Exceeds the limit ({Value.digitLimit} digits) for integer string conversion: "
      ++ s!"value has {count} digits; use sys.set_int_max_str_digits() to increase the limit"
  | .badFloat text => s!"could not convert string to float: {quoted text}"
  | .tooLarge => "int too large to convert to float"
  | .notMoment => "'NoneType' object has no attribute 'groupdict'"
  | .notText => "expected string or bytes-like object, got 'list'"
  | .endless => "maximum recursion depth exceeded"
  | .moment fault => fault.message
  | .codePoint code =>
    if code < 0x80000000 then "chr() arg not in range(0x110000)"
    else "Python int too large to convert to C int"

inductive Fault where
  /-- An ill-formed sequence of bytes. -/
  | decode (fault : DecodeFault)
  /-- A character that documents may not hold. -/
  | character
  /-- Characters that form no token. -/
  | token
  /-- Tokens that form no node. -/
  | layout
  /-- An alias without its anchor, an anchor given twice, or a second document. -/
  | reference
  /-- A node that has no value. -/
  | construction
  | conversion (fault : ConversionFault)
  deriving DecidableEq, Repr

/-- A fault that was met while tokens were read, with the index of the character that shows it. -/
structure TokenFault where
  index : Nat
  fault : Fault
  deriving DecidableEq, Repr

/-! ## Cursors

A cursor is the rest of a document with the index, line and column at which it starts. Documents
hold no NUL, so that character stands for the end of the document.
-/

/-- Line feed, next line, line separator and paragraph separator. -/
def isBreak (c : Char) : Bool :=
  c = '\n' || c = '\u0085' || c = '\u2028' || c = '\u2029'

def endMark : Char := '\x00'

def isBreakOrEnd (c : Char) : Bool := c = endMark || isBreak c

def isSpaceOrEnd (c : Char) : Bool := c = ' ' || isBreakOrEnd c

def isBlankOrEnd (c : Char) : Bool := c = '\t' || isSpaceOrEnd c

/-- Letters, digits, hyphen and low line of the names of anchors, handles and directives. -/
def isNameChar (c : Char) : Bool := c.isAlphanum || c = '-' || c = '_'

def hexValue? (c : Char) : Option Nat :=
  if '0' ≤ c ∧ c ≤ '9' then some (c.toNat - '0'.toNat)
  else if 'a' ≤ c ∧ c ≤ 'f' then some (c.toNat - 'a'.toNat + 10)
  else if 'A' ≤ c ∧ c ≤ 'F' then some (c.toNat - 'A'.toNat + 10)
  else none

/-- The number written by hexadecimal digits, if all the characters are such digits. -/
def hexNumber? (cs : List Char) : Option Nat :=
  cs.foldl (fun n? c => do return (← n?) * 16 + (← hexValue? c)) (some 0)

structure Cursor where
  rest : List Char
  index : Nat := 0
  line : Nat := 0
  column : Nat := 0
  deriving DecidableEq, Repr, Inhabited

namespace Cursor

def peek (here : Cursor) : Char := here.rest.headD endMark

def peekAt (here : Cursor) (n : Nat) : Char := (here.rest.drop n).headD endMark

def fail (here : Cursor) {α : Type} : Except TokenFault α := .error ⟨here.index, .token⟩

/-- The cursor after one character. A byte order mark takes no column. -/
def next (here : Cursor) : Cursor :=
  match here.rest with
  | [] => here
  | c :: rest =>
    if isBreak c then ⟨rest, here.index + 1, here.line + 1, 0⟩
    else if c = '\ufeff' then ⟨rest, here.index + 1, here.line, here.column⟩
    else ⟨rest, here.index + 1, here.line, here.column + 1⟩

def skip (here : Cursor) : (count : Nat) → Cursor
  | 0 => here
  | count + 1 => here.next.skip count

/-- The longest run of characters that satisfy `p`, and the cursor after it. -/
def span (here : Cursor) (p : Char → Bool) : List Char × Cursor :=
  let run := here.rest.takeWhile p
  (run, here.skip run.length)

def skipWhile (here : Cursor) (p : Char → Bool) : Cursor := (here.span p).2

def skipSpaces (here : Cursor) : Cursor := here.skipWhile (· = ' ')

/-- The line break at the cursor as it counts in a scalar, if there is one, and the cursor after. -/
def lineBreak? (here : Cursor) : Option (Char × Cursor) :=
  match here.rest with
  | [] => none
  | c :: _ =>
    if c = '\n' || c = '\u0085' then some ('\n', here.next)
    else if isBreak c then some (c, here.next)
    else none

/-- The cursor after the line break that it stands at, if it does. -/
def skipBreak (here : Cursor) : Cursor :=
  match here.lineBreak? with
  | some (_, after) => after
  | none => here

/-- Whether three characters and a blank, or the end, are found here. -/
def atMark (here : Cursor) (mark : List Char) : Bool :=
  here.rest.take 3 = mark && isBlankOrEnd (here.peekAt 3)

def atSeparator (here : Cursor) : Bool :=
  here.atMark ['-', '-', '-'] || here.atMark ['.', '.', '.']

def skipComment (here : Cursor) : Cursor :=
  if here.peek = '#' then here.skipWhile fun c => !isBreak c else here

end Cursor

end WarningSweep.Yaml
