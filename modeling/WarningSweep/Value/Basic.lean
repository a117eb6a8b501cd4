import WarningSweep.Text.Quoted
import WarningSweep.Value.Moment

/-!
# Setting values

The value of a setting is whatever the settings document holds. Collections and moments carry the
number of the node that they were read from: two values with one number are one and the same object,
which shows when they are compared or written back. A value without a number is shared with nothing.
A collection can hold itself: in its inside, `again` stands for the collection with that number.
-/

namespace WarningSweep

inductive CollectionKind where
  | list
  | map
  deriving DecidableEq, Repr

inductive Value where
  | null
  | bool (b : Bool)
  | int (n : Int)
  | float (x : Float)
  /-- Not a number. It differs from every number and from itself, so it matters which one it is. -/
  | nan (node : Option Nat)
  | str (s : String)
  | bytes (b : Bytes)
  | moment (node : Option Nat) (m : Moment)
  | list (node : Option Nat) (items : List Value)
  | pair (node : Option Nat) (first second : Value)
  | map (node : Option Nat) (entries : List (Value × Value))
  | set (node : Option Nat) (members : List Value)
  /-- The collection with this number, somewhere inside itself. -/
  | again (node : Nat) (kind : CollectionKind)
  deriving Inhabited, Repr

namespace Value

def ofFloat (node : Option Nat) (x : Float) : Value := if x.isNaN then .nan node else .float x

def node? : Value → Option Nat
  | .nan node => node
  | .moment node _ => node
  | .list node _ => node
  | .pair node _ _ => node
  | .map node _ => node
  | .set node _ => node
  | .again node _ => some node
  | _ => none

def identical (a b : Value) : Bool :=
  match a.node?, b.node? with
  | some i, some j => i = j
  | _, _ => false

/-- Zero, empty and absent values count as no. -/
def truthy : Value → Bool
  | .null => false
  | .bool b => b
  | .int n => n ≠ 0
  | .float x => !(x == 0.0)
  | .nan _ => true
  | .str s => s ≠ ""
  | .bytes b => b ≠ []
  | .moment .. => true
  | .list _ items => !items.isEmpty
  | .pair .. => true
  | .map _ entries => !entries.isEmpty
  | .set _ members => !members.isEmpty
  | .again .. => true

/-- The value as an exact number: a signed fraction, for booleans, integers and finite doubles. -/
def number? : Value → Option (Int × Nat)
  | .bool b => some (if b then 1 else 0, 1)
  | .int n => some (n, 1)
  | .float x =>
    if x.isInf then none
    else
      let (negative, magnitude) := floatParts x
      let (num, den) := magnitude.ratio
      some (if negative then -num else num, den)
  | _ => none

def sameNumber (a b : Value) : Bool :=
  match a.number?, b.number? with
  | some (p, q), some (r, s) => p * s = r * q
  | _, _ => false

mutual

/-- Equality of values: numbers by value, maps and sets without regard to order. What collections
hold is equal also when it is one object. -/
def same : Value → Value → Bool
  | .null, .null => true
  | .str a, .str b => a = b
  | .bytes a, .bytes b => a = b
  | .moment _ a, .moment _ b => a.same b
  | .list _ a, .list _ b => sameList a b
  | .pair _ a b, .pair _ c d => (identical a c || same a c) && (identical b d || same b d)
  | .map _ a, .map _ b => a.length = b.length && sameEntries a b
  | .set _ a, .set _ b => a.length = b.length && sameMembers a b
  | .float a, .float b => a == b
  | a, b => sameNumber a b

def sameList : List Value → List Value → Bool
  | [], [] => true
  | a :: as, b :: bs => (identical a b || same a b) && sameList as bs
  | _, _ => false

def sameEntries : List (Value × Value) → List (Value × Value) → Bool
  | [], _ => true
  | (key, value) :: rest, other =>
    other.any (fun entry => (identical key entry.1 || same key entry.1)
        && (identical value entry.2 || same value entry.2)) && sameEntries rest other

def sameMembers : List Value → List Value → Bool
  | [], _ => true
  | member :: rest, other =>
    other.any (fun found => identical member found || same member found) && sameMembers rest other

end

/-- Whether two values count as one key, or as equal parts of collections. -/
def agree (a b : Value) : Bool := identical a b || same a b

def kindName : Value → String
  | .null => "NoneType"
  | .bool _ => "bool"
  | .int _ => "int"
  | .float _ => "float"
  | .nan _ => "float"
  | .str _ => "str"
  | .bytes _ => "bytes"
  | .moment _ m => if m.clock.isSome then "datetime.datetime" else "datetime.date"
  | .list .. => "list"
  | .pair .. => "tuple"
  | .map .. => "dict"
  | .set .. => "set"
  | .again _ .list => "list"
  | .again _ .map => "dict"

/-- A map's entries after `value` is stored under `key`: a key that is already there keeps its
place. -/
def store {α : Type} (entries : List (Value × α)) (key : Value) (value : α) : List (Value × α) :=
  if entries.any (fun entry => entry.1.agree key) then
    entries.map fun entry => if entry.1.agree key then (entry.1, value) else entry
  else entries ++ [(key, value)]

def shownBytes (b : Bytes) : String :=
  let quote := if b.contains 0x27 && !b.contains 0x22 then '"' else '\''
  let byte (u : UInt8) : List Char :=
    let c := Char.ofNat u.toNat
    if c = quote || c = '\\' then ['\\', c]
    else if c = '\n' then ['\\', 'n']
    else if c = '\r' then ['\\', 'r']
    else if c = '\t' then ['\\', 't']
    else if 0x20 ≤ u.toNat && u.toNat < 0x7F then [c]
    else escapeCode u.toNat
  String.ofList ('b' :: quote :: b.flatMap byte ++ [quote])

mutual

def shown : Value → String
  | .null => "None"
  | .bool b => if b then "True" else "False"
  | .int n => toString n
  | .float x => floatText x
  | .nan _ => "nan"
  | .str s => quoted s
  | .bytes b => shownBytes b
  | .moment _ m => m.shown
  | .list _ items => "[" ++ shownList items ++ "]"
  | .pair _ a b => "(" ++ shown a ++ ", " ++ shown b ++ ")"
  | .map _ entries => "\x7b" ++ shownEntries entries ++ "\x7d"
  | .set _ members => if members.isEmpty then "set()" else "\x7b" ++ shownList members ++ "\x7d"
  | .again _ .list => "[...]"
  | .again _ .map => "\x7b...\x7d"

def shownList : List Value → String
  | [] => ""
  | [v] => shown v
  | v :: w :: rest => shown v ++ ", " ++ shownList (w :: rest)

def shownEntries : List (Value × Value) → String
  | [] => ""
  | [(key, value)] => shown key ++ ": " ++ shown value
  | (key, value) :: next :: rest =>
    shown key ++ ": " ++ shown value ++ ", " ++ shownEntries (next :: rest)

end

/-- The text of a value: a string or a moment stands for itself, all else as it is shown. -/
def text : Value → String
  | .str s => s
  | .moment _ m => m.text
  | v => v.shown

def digitLimit : Nat := 4300

mutual

def writable : Value → Bool
  | .int n => n.natAbs < Nat.pow 10 digitLimit
  | .list _ items => writableAll items
  | .pair _ a b => writable a && writable b
  | .map _ entries => writableEntries entries
  | .set _ members => writableAll members
  | _ => true

def writableAll : List Value → Bool
  | [] => true
  | v :: rest => writable v && writableAll rest

def writableEntries : List (Value × Value) → Bool
  | [] => true
  | (key, value) :: rest => writable key && writable value && writableEntries rest

end

mutual

/-- The value with `whole` in each place that stands for the collection numbered `node`. -/
def fill (node : Nat) (whole : Value) : Value → Value
  | .again other kind => if other = node then whole else .again other kind
  | .list other items => .list other (fillAll node whole items)
  | .pair other a b => .pair other (fill node whole a) (fill node whole b)
  | .map other entries => .map other (fillEntries node whole entries)
  | v => v

def fillAll (node : Nat) (whole : Value) : List Value → List Value
  | [] => []
  | v :: rest => fill node whole v :: fillAll node whole rest

def fillEntries (node : Nat) (whole : Value) : List (Value × Value) → List (Value × Value)
  | [] => []
  | (key, value) :: rest => (key, fill node whole value) :: fillEntries node whole rest

end

mutual

/-- The value with `again` in each place that repeats a collection around it; `outer` are the
numbers of the collections around the value. -/
def fold (outer : List Nat) : Value → Value
  | .list (some node) items =>
    if outer.contains node then .again node .list
    else .list (some node) (foldAll (node :: outer) items)
  | .list none items => .list none (foldAll outer items)
  | .pair node a b => .pair node (fold outer a) (fold outer b)
  | .map (some node) entries =>
    if outer.contains node then .again node .map
    else .map (some node) (foldEntries (node :: outer) entries)
  | .map none entries => .map none (foldEntries outer entries)
  | v => v

def foldAll (outer : List Nat) : List Value → List Value
  | [] => []
  | v :: rest => fold outer v :: foldAll outer rest

def foldEntries (outer : List Nat) : List (Value × Value) → List (Value × Value)
  | [] => []
  | (key, value) :: rest => (key, fold outer value) :: foldEntries outer rest

end

def part (whole v : Value) : Value :=
  match whole.node? with
  | none => v
  | some node => (fill node whole v).fold []

/-- What iterating over the value gives; a string gives its characters and a map its keys. -/
def items? : Value → Option (List Value)
  | .str s => some (s.toList.map fun c => .str c.toString)
  | .bytes b => some (b.map fun u => .int u.toNat)
  | .list node items => some (items.map (part (.list node items)))
  | .pair _ a b => some [a, b]
  | .map _ entries => some (entries.map Prod.fst)
  | .set _ members => some members
  | _ => none

mutual

/-- The value as a copy, whose collections and moments are shared with nothing. -/
def detached : Value → Value
  | .moment _ m => .moment none m
  | .list _ items => .list none (detachedAll items)
  | .pair _ a b => .pair none (detached a) (detached b)
  | .map _ entries => .map none (detachedEntries entries)
  | .set _ members => .set none members
  | v => v

def detachedAll : List Value → List Value
  | [] => []
  | v :: rest => detached v :: detachedAll rest

def detachedEntries : List (Value × Value) → List (Value × Value)
  | [] => []
  | (key, value) :: rest => (key, detached value) :: detachedEntries rest

end

end Value

end WarningSweep
