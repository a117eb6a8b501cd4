import WarningSweep.Yaml.Cursor

/-!
# Tags

A tag says what a node's value is. A plain scalar without a tag gets the one that its text looks
like: a boolean, a number, a date, nothing, a merge sign, or otherwise a string.
-/

namespace WarningSweep.Yaml

inductive Tag where
  | null
  | bool
  | int
  | float
  | timestamp
  | str
  | binary
  | seq
  | map
  | set
  | omap
  | pairs
  | merge
  | defaultValue
  | other (name : String)
  deriving DecidableEq, Repr, Inhabited

namespace Tag

def space : String := "tag:yaml.org,2002:"

def ofName (name : String) : Tag :=
  match (name.dropPrefix? space).map fun rest => rest.toString with
  | some "null" => .null
  | some "bool" => .bool
  | some "int" => .int
  | some "float" => .float
  | some "timestamp" => .timestamp
  | some "str" => .str
  | some "binary" => .binary
  | some "seq" => .seq
  | some "map" => .map
  | some "set" => .set
  | some "omap" => .omap
  | some "pairs" => .pairs
  | some "merge" => .merge
  | some "value" => .defaultValue
  | _ => .other name

def isScalar : Tag → Bool
  | .null | .bool | .int | .float | .timestamp | .str | .binary => true
  | _ => false

def boolWords : List (String × Bool) :=
  [("yes", true), ("Yes", true), ("YES", true), ("no", false), ("No", false), ("NO", false),
   ("true", true), ("True", true), ("TRUE", true), ("false", false), ("False", false),
   ("FALSE", false), ("on", true), ("On", true), ("ON", true), ("off", false), ("Off", false),
   ("OFF", false)]

def nullWords : List String := ["~", "null", "Null", "NULL", ""]

def isDigitOrLow (c : Char) : Bool := c.isDigit || c = '_'

def dropSign : List Char → List Char
  | '-' :: cs => cs
  | '+' :: cs => cs
  | cs => cs

def splitAt (sep : Char) : List Char → List (List Char)
  | [] => [[]]
  | c :: cs =>
    match splitAt sep cs with
    | [] => [[c]]
    | part :: parts => if c = sep then [] :: part :: parts else (c :: part) :: parts

/-- A digit, or two of which the first is at most five. -/
def isSexagesimal : List Char → Bool
  | [d] => d.isDigit
  | [t, d] => '0' ≤ t && t ≤ '5' && d.isDigit
  | _ => false

def startsWithDigit (allowZero : Bool) : List Char → Bool
  | c :: cs => c.isDigit && (allowZero || c ≠ '0') && cs.all isDigitOrLow
  | [] => false

/-- Digits and low lines in groups of sixty, at least two of them. -/
def isSexagesimalNumber (allowZero : Bool) (cs : List Char) : Bool :=
  match splitAt ':' cs with
  | first :: second :: rest => startsWithDigit allowZero first && (second :: rest).all isSexagesimal
  | _ => false

def isInt (text : List Char) : Bool :=
  let cs := dropSign text
  match cs with
  | '0' :: 'b' :: c :: digits => (c :: digits).all fun c => c = '0' || c = '1' || c = '_'
  | '0' :: 'x' :: c :: digits => (c :: digits).all fun c => (hexValue? c).isSome || c = '_'
  | ['0'] => true
  | '0' :: c :: digits => (c :: digits).all fun c => ('0' ≤ c && c ≤ '7') || c = '_'
  | _ => startsWithDigit false cs || isSexagesimalNumber false cs

def isExponent : List Char → Bool
  | [] => true
  | e :: sign :: digits =>
    (e = 'e' || e = 'E') && (sign = '-' || sign = '+') && !digits.isEmpty && digits.all Char.isDigit
  | _ => false

def isFloat (text : List Char) : Bool :=
  let cs := dropSign text
  let whole := cs.takeWhile (· ≠ '.')
  let fraction := (cs.dropWhile (· ≠ '.')).drop 1
  let pointed := cs.contains '.'
  let afterDigits := fraction.dropWhile isDigitOrLow
  (pointed && startsWithDigit true whole && isExponent afterDigits)
    || (pointed && isSexagesimalNumber true whole && fraction.all isDigitOrLow)
    || (match text with
      | '.' :: c :: _ => c.isDigit && isExponent afterDigits
      | _ => false)
    || [".inf", ".Inf", ".INF"].contains (String.ofList cs)
    || [".nan", ".NaN", ".NAN"].contains (String.ofList text)

def digits? (least most : Nat) (cs : List Char) : Option (List Char × List Char) :=
  let run := (cs.take most).takeWhile Char.isDigit
  if least ≤ run.length then some (run, cs.drop run.length) else none

def expect? (c : Char) : List Char → Option (List Char)
  | d :: cs => if c = d then some cs else none
  | [] => none

/-- The parts of a date, or of a date and time, as they are written. -/
structure Timestamp where
  year : List Char
  month : List Char
  day : List Char
  clock : Option (List Char × List Char × List Char) := none
  fraction : List Char := []
  /-- Whether the time is in universal time, and an offset from it otherwise. -/
  universal : Bool := false
  offset : Option (Char × List Char × List Char) := none
  deriving DecidableEq, Repr

def zone? (t : Timestamp) (cs : List Char) : Option Timestamp :=
  match cs.dropWhile (fun c => c = ' ' || c = '\t') with
  | [] => if cs.isEmpty then some t else none
  | ['Z'] => some { t with universal := true }
  | sign :: rest =>
    if sign = '-' || sign = '+' then do
      let (hour, rest) ← digits? 1 2 rest
      match rest with
      | [] => some { t with offset := some (sign, hour, []) }
      | ':' :: rest => do
        let (minute, rest) ← digits? 2 2 rest
        if rest.isEmpty then some { t with offset := some (sign, hour, minute) } else none
      | _ => none
    else none

/-- Reads a date with one or two digits for month and day, and a time of day after it. -/
def timestamp? (text : List Char) : Option Timestamp := do
  let (year, cs) ← digits? 4 4 text
  let cs ← expect? '-' cs
  let (month, cs) ← digits? 1 2 cs
  let cs ← expect? '-' cs
  let (day, cs) ← digits? 1 2 cs
  let date : Timestamp := { year, month, day }
  match cs with
  | [] => some date
  | c :: rest =>
    let cs ←
      if c = 'T' || c = 't' then some rest
      else if c = ' ' || c = '\t' then some (rest.dropWhile fun c => c = ' ' || c = '\t')
      else none
    let (hour, cs) ← digits? 1 2 cs
    let cs ← expect? ':' cs
    let (minute, cs) ← digits? 2 2 cs
    let cs ← expect? ':' cs
    let (second, cs) ← digits? 2 2 cs
    let timed := { date with clock := some (hour, minute, second) }
    match cs with
    | '.' :: cs =>
      zone? { timed with fraction := cs.takeWhile Char.isDigit } (cs.dropWhile Char.isDigit)
    | _ => zone? timed cs

/-- Plain dates are only taken as such with two digits for month and day. -/
def isTimestamp (text : List Char) : Bool :=
  match timestamp? text with
  | none => false
  | some t => t.clock.isSome || (t.month.length = 2 && t.day.length = 2)

def dropLineEnd (cs : List Char) : List Char := if cs.getLast? = some '\n' then cs.dropLast else cs

/-- The tag that the text of a plain scalar looks like. A line feed that ends the text does not
count. -/
def ofPlain (text : String) : Tag :=
  let all := text.toList
  let cs := if 1 < all.length then dropLineEnd all else all
  let word := String.ofList cs
  if boolWords.any fun entry => entry.1 = word then .bool
  else if isFloat cs then .float
  else if isInt cs then .int
  else if word = "<<" then .merge
  else if nullWords.contains word then .null
  else if isTimestamp cs then .timestamp
  else if word = "=" then .defaultValue
  else if ["!", "&", "*"].contains word then .other (space ++ "yaml")
  else .str

end Tag

end WarningSweep.Yaml
