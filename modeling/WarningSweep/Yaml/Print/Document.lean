import WarningSweep.Text.Encoding
import WarningSweep.Value.Basic
import WarningSweep.Yaml.Print.Line

/-!
# Writing a settings document

Collections are written in block style, in the order of their entries. A value that occurs more than
once as the same object is written once, under an anchor, and then named by aliases.
-/

namespace WarningSweep.Yaml

def scalarForm? : Value → Option (Tag × String)
  | .null => some (.null, "null")
  | .bool b => some (.bool, if b then "true" else "false")
  | .int n => some (.int, toString n)
  | .float x =>
    let word := floatText x
    some (.float,
      if word = "inf" then ".inf"
      else if word = "-inf" then "-.inf"
      else if word.contains '.' then word
      else word.replace "e" ".0e")
  | .nan _ => some (.float, ".nan")
  | .str s => some (.str, s)
  | .bytes b => some (.binary, Base64.encode b)
  | .moment _ m => some (.timestamp, m.text)
  | _ => none

def shortTag : Tag → String
  | .null => "!!null"
  | .bool => "!!bool"
  | .int => "!!int"
  | .float => "!!float"
  | .timestamp => "!!timestamp"
  | .str => "!!str"
  | .binary => "!!binary"
  | .set => "!!set"
  | _ => ""

/-- The number of the object that a value is, if it can be written under an anchor. -/
def objectId? : Value → Option Nat
  | .nan _ => none
  | v => v.node?

/-- The objects met so far, and those met again, in the order in which they were met again. -/
structure Sharing where
  seen : List Nat := []
  shared : List Nat := []

def meet (s : Sharing) : Option Nat → Sharing × Bool
  | none => (s, true)
  | some id =>
    if s.seen.contains id then
      (if s.shared.contains id then s else { s with shared := s.shared ++ [id] }, false)
    else ({ s with seen := id :: s.seen }, true)

mutual

def findShared (s : Sharing) : Value → Sharing
  | .moment id _ => (meet s id).1
  | .list id items => if (meet s id).2 then findSharedIn (meet s id).1 items else (meet s id).1
  | .pair id a b =>
    if (meet s id).2 then findShared (findShared (meet s id).1 a) b else (meet s id).1
  | .map id entries =>
    if (meet s id).2 then findSharedEntries (meet s id).1 entries else (meet s id).1
  | .set id members => if (meet s id).2 then findSharedIn (meet s id).1 members else (meet s id).1
  | .again id _ => (meet s (some id)).1
  | _ => s

def findSharedIn (s : Sharing) : List Value → Sharing
  | [] => s
  | v :: vs => findSharedIn (findShared s v) vs

def findSharedEntries (s : Sharing) : List (Value × Value) → Sharing
  | [] => s
  | (key, value) :: rest => findSharedEntries (findShared (findShared s key) value) rest

end

def anchorText (shared : List Nat) (id : Nat) : Option (List Char) :=
  (shared.idxOf? id).map fun place =>
    "id".toList ++ (DecimalFormat.pad 3 (toString (place + 1))).toList

structure Printing where
  page : Page := {}
  printed : List Nat := []

/-- Where a node is written: the column of the block around it, whether it belongs to a mapping, and
whether it is a key on one line. -/
structure Place where
  indent : Option Nat
  inMapping : Bool
  isKey : Bool

namespace Place

def scalarIndent (place : Place) : Nat := (place.indent.map (· + 2)).getD 2

def mappingIndent (place : Place) : Nat := (place.indent.map (· + 2)).getD 0

/-- A sequence directly under a key stands on the column of the key. -/
def sequenceIndent (place : Place) (page : Page) : Nat :=
  if place.inMapping && !page.fresh then place.indent.getD 0 else place.mappingIndent

end Place

def isSimpleKey (shared printed : List Nat) (key : Value) : Bool :=
  let anchor := (objectId? key).bind (anchorText shared)
  let known := ((objectId? key).map printed.contains).getD false
  if anchor.isSome && known then true
  else
    match scalarForm? key with
    | none => false
    | some (tag, text) =>
      let length := (anchor.map List.length).getD 0 + (shortTag tag).length + text.length
      length < 128 && text ≠ "" && !(analyse text.toList).multiline

def printScalar (place : Place) (tag : Tag) (text : String) (page : Page) : Page :=
  let cs := text.toList
  let looksRight := Tag.ofPlain text = tag
  let style := chooseStyle looksRight place.isKey (tag = .binary) cs
  let untagged := if style = .plain then looksRight else tag = .str
  let page := if untagged then page else page.indicator (shortTag tag).toList true false false
  let indent := place.scalarIndent
  let split := !place.isKey
  match style with
  | .plain => page.plain indent split cs
  | .single => page.single indent split cs
  | .double => page.double indent split cs
  | .literal => page.literal indent cs

def emptyCollection (page : Page) (opening closing : Char) : Page :=
  (page.indicator [opening] true true false).indicator [closing] false false false

mutual

def printValue (shared : List Nat) (place : Place) (s : Printing) (v : Value) : Printing :=
  match (objectId? v).bind fun id => (anchorText shared id).map fun name => (id, name) with
  | some (id, name) =>
    if s.printed.contains id then
      { s with page := s.page.indicator ('*' :: name) true false false }
    else
      printContent shared place
        ⟨s.page.indicator ('&' :: name) true false false, id :: s.printed⟩ v
  | none => printContent shared place s v
termination_by (sizeOf v, 1)

def printContent (shared : List Nat) (place : Place) (s : Printing) (v : Value) : Printing :=
  match v with
  | .list _ [] => { s with page := emptyCollection s.page '[' ']' }
  | .list _ items => printItems shared ⟨some (place.sequenceIndent s.page), false, false⟩ s items
  | .pair _ a b =>
    let page := s.page.indicator "!!python/tuple".toList true false false
    let place : Place := ⟨some (place.sequenceIndent page), false, false⟩
    printItem shared place (printItem shared place { s with page } a) b
  | .map _ [] => { s with page := emptyCollection s.page '\x7b' '\x7d' }
  | .map _ entries => printEntries shared place.mappingIndent s entries
  | .set _ members =>
    let page := s.page.indicator (shortTag .set).toList true false false
    if members.isEmpty then { s with page := emptyCollection page '\x7b' '\x7d' }
    else printMembers shared place.mappingIndent { s with page } members
  | scalar =>
    match scalarForm? scalar with
    | some (tag, text) => { s with page := printScalar place tag text s.page }
    | none => s
termination_by (sizeOf v, 0)

def printItems (shared : List Nat) (place : Place) (s : Printing) (items : List Value) : Printing :=
  match items with
  | [] => s
  | item :: rest => printItems shared place (printItem shared place s item) rest
termination_by (sizeOf items, 0)

def printItem (shared : List Nat) (place : Place) (s : Printing) (item : Value) : Printing :=
  let page := (s.page.toIndent (place.indent.getD 0)).indicator ['-'] true false true
  printValue shared place { s with page } item
termination_by (sizeOf item, 2)

def printEntries (shared : List Nat) (indent : Nat) (s : Printing)
    (entries : List (Value × Value)) : Printing :=
  match entries with
  | [] => s
  | (key, value) :: rest =>
    printEntries shared indent
      (printValue shared ⟨some indent, true, false⟩ (printKey shared indent s key) value) rest
termination_by (sizeOf entries, 0)

/-- The members of a set are keys without values. -/
def printMembers (shared : List Nat) (indent : Nat) (s : Printing) (members : List Value) :
    Printing :=
  match members with
  | [] => s
  | member :: rest =>
    let s := printKey shared indent s member
    let page := printScalar ⟨some indent, true, false⟩ .null "null" s.page
    printMembers shared indent { s with page } rest
termination_by (sizeOf members, 0)

def printKey (shared : List Nat) (indent : Nat) (s : Printing) (key : Value) : Printing :=
  let page := s.page.toIndent indent
  if isSimpleKey shared s.printed key then
    let s := printValue shared ⟨some indent, true, true⟩ { s with page } key
    { s with page := s.page.indicator [':'] false false false }
  else
    let page := page.indicator ['?'] true false true
    let s := printValue shared ⟨some indent, true, false⟩ { s with page } key
    { s with page := (s.page.toIndent indent).indicator [':'] true false true }
termination_by (sizeOf key, 2)

end

def print (v : Value) : String :=
  let sharing := findShared {} v
  let s := printValue sharing.shared ⟨none, false, false⟩ {} v
  (s.page.toIndent 0).text

end WarningSweep.Yaml
