import WarningSweep.Text.Portion
import WarningSweep.Yaml.Node.Cell
import WarningSweep.Yaml.Node.Parse

/-!
# Reading a settings document

The last two steps from the bytes of a document to its value.
-/

namespace WarningSweep.Yaml

/-! ## Values of nodes

The value that a collection is, with all that it holds. A value that holds no collection around it
is made once and used wherever it occurs; a collection inside itself is named by its number.
-/

namespace Built

/-- The values that have been made, each at the place of its collection. -/
abbrev Known := Array (Option Value)

def cell (b : Built) (place : Nat) : Cell := (b.cells.getD place none).getD default

def nameOf (b : Built) (place : Nat) : Value :=
  match b.cell place with
  | .map _ => .again (objectNumber place) .map
  | _ => .again (objectNumber place) .list

/-- The value of a part, and whether it can be used anywhere; `outer` are the places of the
collections around it. No place is around itself, so the nodes bound the steps. -/
def valueOf (b : Built) : (steps : Nat) → (outer : List Nat) → Part → StateM Known (Value × Bool)
  | _, _, .value v => return (v, true)
  | 0, _, .collection place => return (b.nameOf place, false)
  | steps + 1, outer, .collection place => do
    if outer.contains place then return (b.nameOf place, false)
    match (← get).getD place none with
    | some v => return (v, true)
    | none =>
      let inside := b.valueOf steps (place :: outer)
      let node := some (objectNumber place)
      let (v, everywhere) ← match b.cell place with
        | .list items => do
          let items ← items.mapM inside
          pure (Value.list node (items.map Prod.fst), items.all Prod.snd)
        | .pairs items => do
          let items ← items.mapM fun (number, first, second) => do
            let (a, free) ← inside first
            let (b, freeToo) ← inside second
            pure (Value.pair (some number) a b, free && freeToo)
          pure (Value.list node (items.map Prod.fst), items.all Prod.snd)
        | .map entries => do
          let entries ← entries.mapM fun (key, part) => do
            let (value, free) ← inside part
            pure ((key, value), free)
          pure (Value.map node (entries.map Prod.fst), entries.all Prod.snd)
        | .set members => pure (Value.set node members, true)
      if everywhere then modify fun known => known.setIfInBounds place (some v)
      return (v, everywhere)

/-- The value of the root. The values of its entries are those that they have on their own. -/
def value (b : Built) : Value :=
  let steps := b.cells.size + 1
  let make (action : StateM Known Value) : Value := (action (.replicate b.cells.size none)).1
  match b.root with
  | .value v => v
  | .collection place =>
    match b.cell place with
    | .map entries => make do
      let entries ← entries.mapM fun (key, part) => do
        let (value, _) ← b.valueOf steps [] part
        pure (key, value)
      return .map (some (objectNumber place)) entries
    | _ => make do return (← b.valueOf steps [] b.root).1

end Built

def Rooted.value (document : Rooted) : Except Fault Value := document.build.map Built.value

/-! ## Documents

A document is a text of printable characters that holds at most one value. It is read in portions,
and only as far as its tokens are needed, so a fault at its start hides what cannot be read further
on.
-/

def isAllowed (c : Char) : Bool :=
  let n := c.toNat
  c = '\t' || c = '\n' || c = '\r' || (0x20 ≤ n && n ≤ 0x7E) || n = 0x85 || (0xA0 ≤ n && n ≤ 0xD7FF)
    || (0xE000 ≤ n && n ≤ 0xFFFD) || 0x10000 ≤ n

def portionSize : Nat := 4096

/-- What can be read of a document, and why there is no more of it. The first two portions are read
before their characters are looked at. -/
def readable (portions : List (List Char)) (ending : Option DecodeFault) :
    List Char × Option Fault :=
  let blocks : List (List Char) := match portions with
    | first :: second :: rest => (first ++ second) :: rest
    | [first] => if ending.isSome then [] else [first]
    | [] => []
  let sound := blocks.takeWhile fun block => block.all isAllowed
  let fault : Option Fault :=
    if sound.length < blocks.length then some .character else ending.map .decode
  (sound.flatten, fault)

/-- The value of a document; a document without a node has the value `null`. -/
def load (bytes : Bytes) : Except Fault Value := do
  let (portions, ending) := portionsOf portionSize bytes
  let (cs, fault) := readable portions ending
  match ← Graph.ofTokens (TokenStream.ofDocument cs fault) with
  | none => return .null
  | some document => document.value

end WarningSweep.Yaml
