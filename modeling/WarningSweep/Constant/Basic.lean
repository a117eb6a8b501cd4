import WarningSweep.Text.Basic
import WarningSweep.Text.CharClass
import WarningSweep.Text.Quoted

/-!
# Constants

A constant has a name, a value and a type, all written as in the sources, and remembers the script
that defines it. The first three are taken without the blanks around them. A name must consist of
symbol characters, and the value and the type must not be empty.
-/

namespace WarningSweep

structure Constant where
  symbol : String
  value : String
  ctype : String
  source : String
  deriving DecidableEq, Repr, Inhabited

namespace Constant

def declaration (c : Constant) : String := s!"extern {c.ctype} const {c.symbol} ;"

def definition (c : Constant) : String :=
  s!"{c.ctype} const {c.symbol} = {c.value} ; /* from {c.source} */"

inductive Part where
  | symbol
  | value
  | ctype
  | source
  deriving DecidableEq, Repr

def Part.name : Part → String
  | .symbol => "symbol"
  | .value => "value"
  | .ctype => "c_type"
  | .source => "source"

inductive Given where
  | absent
  | notText
  | text (s : String)
  deriving DecidableEq, Repr

inductive Problem where
  | absent
  | notText
  | tooShort
  | badSymbol
  deriving DecidableEq, Repr

namespace Problem

def kind : Problem → String
  | .absent => "missing"
  | .notText => "string_type"
  | .tooShort => "string_too_short"
  | .badSymbol => "string_pattern_mismatch"

def message : Problem → String
  | .absent => "Field required"
  | .notText => "Input should be a valid string"
  | .tooShort => "String should have at least 1 character"
  | .badSymbol => "String should match pattern '^\\w+$'"

end Problem

/-- A part with what is wrong with it and the text that was given. -/
structure Fault where
  part : Part
  problem : Problem
  text : String := ""
  deriving DecidableEq, Repr

def clean (part : Part) (s : String) : String := if part = .source then s else trimBlanks s

def problem? (part : Part) (s : String) : Option Problem :=
  match part with
  | .symbol => if s ≠ "" ∧ s.toList.all isSymbolChar then none else some .badSymbol
  | .value => if s = "" then some .tooShort else none
  | .ctype => if s = "" then some .tooShort else none
  | .source => none

def faultOf? (part : Part) : Given → Option Fault
  | .absent => some { part, problem := .absent }
  | .notText => some { part, problem := .notText }
  | .text s =>
    (problem? part (clean part s)).map fun problem => ⟨part, problem, clean part s⟩

def textOf (part : Part) : Given → String
  | .text s => clean part s
  | _ => ""

/-- The constant with the given parts, or all that is wrong with them in the order of the parts. -/
def ofParts (given : Part → Given) : Except (List Fault) Constant :=
  let parts : List Part := [.symbol, .value, .ctype, .source]
  match parts.filterMap fun part => faultOf? part (given part) with
  | [] =>
    .ok ⟨textOf .symbol (given .symbol), textOf .value (given .value), textOf .ctype (given .ctype),
      textOf .source (given .source)⟩
  | faults => .error faults

/-- The characters from the front that take at most `limit` bytes. -/
def takeBytes (limit : Nat) : List Char → List Char
  | [] => []
  | c :: rest => if c.utf8Size ≤ limit then c :: takeBytes (limit - c.utf8Size) rest else []

/-- A shown text of more than 50 bytes is cut to 25 bytes at its front and 24 at its end. -/
def shorten (shown : String) : String :=
  if shown.utf8ByteSize ≤ 50 then shown
  else
    String.ofList (takeBytes 25 shown.toList) ++ "..."
      ++ String.ofList (takeBytes 24 shown.toList.reverse).reverse

/-- The report on a fault; `guide` is where the kinds of problems are explained. -/
def Fault.report (guide : Option String) (fault : Fault) : String :=
  let further := guide.map fun place =>
    s!"\n    For further information visit {place}{fault.problem.kind}"
  s!"\n{fault.part.name}\n  {fault.problem.message} [type={fault.problem.kind}, input_value="
    ++ s!"{shorten (quoted fault.text)}, input_type=str]" ++ further.getD ""

/-- The report on a constant whose parts were all given as texts. -/
def report (guide : Option String) (faults : List Fault) : String :=
  let count := faults.length
  let noun := if count = 1 then "error" else "errors"
  s!"{count} validation {noun} for ConstantDefinition"
    ++ String.join (faults.map (Fault.report guide))

end Constant

end WarningSweep
