import WarningSweep.Text.CharClass
import WarningSweep.Text.Encoding
import WarningSweep.Text.LetterCase
import WarningSweep.Value.Basic
import WarningSweep.Yaml.Cursor
import WarningSweep.Yaml.Tag

/-!
# Values of scalars

What the text of a scalar means under its tag. Low lines in numbers are for the reader only, and a
number may be written in groups of sixty.
-/

namespace WarningSweep.Yaml

def digitValue? (c : Char) : Option Nat :=
  if '0' ≤ c ∧ c ≤ '9' then some (c.toNat - '0'.toNat)
  else if 'a' ≤ c ∧ c ≤ 'z' then some (c.toNat - 'a'.toNat + 10)
  else if 'A' ≤ c ∧ c ≤ 'Z' then some (c.toNat - 'A'.toNat + 10)
  else none

/-- The number that digits of a base write, if there is at least one and all belong to the base. -/
def digits? (base : Nat) : List Char → Option Nat
  | [] => none
  | cs => cs.foldl (fun n? c => do
      let n ← n?
      let d ← digitValue? c
      if d < base then some (n * base + d) else none) (some 0)

def takeSign : List Char → Bool × List Char
  | '-' :: cs => (true, cs)
  | '+' :: cs => (false, cs)
  | cs => (false, cs)

def dropBaseMark (base : Nat) : List Char → List Char
  | '0' :: m :: cs =>
    let marks := if base = 2 then ['b', 'B'] else if base = 8 then ['o', 'O']
      else if base = 16 then ['x', 'X'] else []
    if marks.contains m then cs else '0' :: m :: cs
  | cs => cs

/-- An integer in a base, with blanks around it and a sign. Beyond a limit only bases that are
powers of two are read. -/
def integer (base : Nat) (cs : List Char) : Except Fault Int :=
  let (negative, rest) := takeSign (numeral cs)
  let digits := dropBaseMark base rest
  let count := (digits.takeWhile fun c => (digitValue? c).any (· < base)).length
  if base = 10 && Value.digitLimit < count then .error (.conversion (.tooManyDigits count))
  else
    match digits? base digits with
    | some n => .ok (if negative then -(n : Int) else n)
    | none => .error (.conversion (.badInteger base (String.ofList cs)))

def intValue (text : String) : Except Fault Int := do
  let all := text.toList.filter (· ≠ '_')
  if all.isEmpty then throw (.conversion .emptyNumber)
  let (negative, cs) := takeSign all
  let n ← match cs with
    | [] => throw (.conversion .emptyNumber)
    | ['0'] => pure 0
    | '0' :: 'b' :: digits => integer 2 digits
    | '0' :: 'x' :: digits => integer 16 digits
    | '0' :: _ => integer 8 cs
    | _ =>
      if cs.contains ':' then do
        let parts ← (Tag.splitAt ':' cs).mapM (integer 10)
        pure (parts.foldl (fun n part => n * 60 + part) 0)
      else integer 10 cs
  return if negative then -n else n

/-- The double nearest to `digits * 10 ^ exponent`. Beyond the range of doubles the digits do not
matter. -/
def scaledFloat (digits : Nat) (exponent : Int) : Float :=
  let size : Int := (toString digits).length + exponent
  if digits = 0 ∨ size < -400 then 0.0
  else if 400 < size then Float.ofScientific 1 false 400
  else if 0 ≤ exponent then Float.ofScientific digits false exponent.toNat
  else Float.ofScientific digits true (-exponent).toNat

/-- A decimal without sign: digits with at most one point, and an exponent. -/
def unsignedFloat? (cs : List Char) : Option Float := do
  let whole := cs.takeWhile Char.isDigit
  let rest := cs.dropWhile Char.isDigit
  let (fraction, rest) := match rest with
    | '.' :: more => (more.takeWhile Char.isDigit, more.dropWhile Char.isDigit)
    | _ => ([], rest)
  let digits ← digits? 10 (whole ++ fraction)
  match rest with
  | [] => some (scaledFloat digits (-fraction.length))
  | e :: power =>
    if e = 'e' || e = 'E' then
      let (negative, power) := takeSign power
      let n ← digits? 10 power
      some (scaledFloat digits ((if negative then -(n : Int) else n) - fraction.length))
    else none

/-- A decimal with blanks around it, a sign, and the words for infinity and for no number. -/
def decimalFloat (cs : List Char) : Except Fault Float :=
  let (negative, rest) := takeSign (numeral cs)
  let word := lowerCase (String.ofList rest)
  let found :=
    if word = "inf" || word = "infinity" then some (1.0 / 0.0)
    else if word = "nan" then some (0.0 / 0.0)
    else unsignedFloat? rest
  match found with
  | some x => .ok (if negative then -x else x)
  | none => .error (.conversion (.badFloat (String.ofList cs)))

def powerOfSixty (power : Nat) : Except Fault Float :=
  let x := Float.ofScientific (Nat.pow 60 power) false 0
  if x.isInf then .error (.conversion .tooLarge) else .ok x

/-- Groups of sixty from the last one on, with the place of the first. -/
def sumOfSixties : (power : Nat) → (sum : Float) → List Float → Except Fault Float
  | _, sum, [] => .ok sum
  | power, sum, group :: rest => do
    let weight ← powerOfSixty power
    sumOfSixties (power + 1) (sum + group * weight) rest

def floatValue (text : String) : Except Fault Float := do
  let all := (lowerCase (String.ofList (text.toList.filter (· ≠ '_')))).toList
  if all.isEmpty then throw (.conversion .emptyNumber)
  let (negative, cs) := takeSign all
  let sign : Float := if negative then -1.0 else 1.0
  if cs = ".inf".toList then return sign * (1.0 / 0.0)
  if cs.contains ':' then
    let groups ← (Tag.splitAt ':' cs).mapM decimalFloat
    return sign * (← sumOfSixties 0 0.0 groups.reverse)
  return sign * (← decimalFloat cs)

/-- Whether a text is the word for what is not a number. All these words stand for one object. -/
def isNaNWord (text : String) : Bool :=
  (takeSign (lowerCase (String.ofList (text.toList.filter (· ≠ '_')))).toList).2 = ".nan".toList

def nat (digits : List Char) : Nat := (digits? 10 digits).getD 0

def momentValue (text : String) : Except Fault Moment := do
  let fail (fault : MomentFault) : Fault := .conversion (.moment fault)
  let some t := Tag.timestamp? (Tag.dropLineEnd text.toList) | throw (.conversion .notMoment)
  let date : Date := ⟨nat t.year, nat t.month, nat t.day⟩
  match t.clock with
  | none =>
    date.check.mapError fail
    return ⟨date, none⟩
  | some (hour, minute, second) =>
    let micro := nat ((t.fraction ++ List.replicate 6 '0').take 6)
    let offset ← match t.offset with
      | none => pure (if t.universal then some 0 else none)
      | some (sign, hours, minutes) => do
        let size : Int := nat hours * 60 + nat minutes
        let offset := if sign = '-' then -size else size
        if 1440 ≤ size then throw (fail (.offset offset))
        pure (some offset)
    let clock : Clock := ⟨nat hour, nat minute, nat second, micro, offset⟩
    date.check.mapError fail
    clock.check.mapError fail
    return ⟨date, some clock⟩

/-- The number of the object that all words for what is not a number stand for. -/
def sharedNaN : Nat := 0

/-- The value of a scalar under its tag, for the tags that scalars can have. `object` is the number
of the value if it is an object of its own. -/
def scalarValue (object : Nat) (tag : Tag) (text : String) : Except Fault Value :=
  match tag with
  | .null => .ok .null
  | .str => .ok (.str text)
  | .bool =>
    let word := lowerCase text
    match Tag.boolWords.find? fun entry => entry.1 = word with
    | some (_, b) => .ok (.bool b)
    | none => .error (.conversion (.unknownBool word))
  | .int => (intValue text).map .int
  | .float =>
    if isNaNWord text then .ok (.nan (some sharedNaN))
    else (floatValue text).map (.ofFloat (some object))
  | .timestamp => (momentValue text).map (.moment (some object))
  | .binary =>
    if text.toList.all fun c => c.toNat < 0x80 then
      match Base64.decode? text.toList with
      | some bytes => .ok (.bytes bytes)
      | none => .error .construction
    else .error .construction
  | _ => .error .construction

end WarningSweep.Yaml
