import WarningSweep.Yaml.Node.Graph
import WarningSweep.Yaml.Node.Scalar

/-!
# What nodes hold

A collection is first met and only later filled: all collections that were met while others were
filled are filled next, in the order in which they were met. So of several faults the one nearest to
the root is reported, and a collection can be a part of itself.
-/

namespace WarningSweep.Yaml

/-- A part of a collection: a value, or the collection at a place. -/
inductive Part where
  | value (v : Value)
  | collection (place : Nat)
  deriving Inhabited, Repr

/-- A collection that is filled. The items of an ordered map are pairs, each with its number. -/
inductive Cell where
  | list (items : List Part)
  | pairs (items : List (Nat × Part × Part))
  | map (entries : List (Value × Part))
  | set (members : List Value)
  deriving Inhabited, Repr

structure Building where
  graph : Graph
  /-- What the nodes met so far stand for. -/
  met : Array (Option Part)
  cells : Array (Option Cell)
  /-- The collections to be filled, the last one met first. -/
  waiting : List Nat := []
  /-- The number of the next pair. -/
  nextPair : Nat

/-- The number of the object that the node at a place stands for. The first number is taken by what
is not a number. -/
def objectNumber (place : Nat) : Nat := sharedNaN + place + 1

namespace Building

def ofGraph (graph : Graph) : Building :=
  let count := graph.nodes.size
  { graph
    met := .replicate count none
    cells := .replicate count none
    nextPair := objectNumber count }

/-- The text of a scalar; a mapping has the text of its entry for the default value. A mapping that
is its own default has none. -/
def textAt (graph : Graph) : (steps : Nat) → (place : Nat) → Except Fault String
  | 0, _ => .error (.conversion .endless)
  | steps + 1, place =>
    match (graph.node place).shape with
    | .scalar text => .ok text
    | .sequence _ => .error .construction
    | .mapping entries =>
      match entries.find? fun entry => graph.tag entry.1 = .defaultValue with
      | none => .error .construction
      | some (_, value) => textAt graph steps value

/-- The value of a node that is tagged as a scalar. The text of a time is looked for in the node
itself. -/
def scalarAt (graph : Graph) (place : Nat) : Except Fault Value := do
  let node := graph.node place
  if !node.tag.isScalar then throw .construction
  let text ← textAt graph (graph.nodes.size + 1) place
  match node.tag, node.shape with
  | .timestamp, .mapping _ => throw (.conversion .notText)
  | tag, _ => scalarValue (objectNumber place) tag text

def meet (b : Building) (place : Nat) : Except Fault (Part × Building) :=
  match b.met.getD place none with
  | some part => .ok (part, b)
  | none => do
    let known (part : Part) : Building := { b with met := b.met.setIfInBounds place (some part) }
    match b.graph.tag place with
    | .seq | .omap | .pairs | .map | .set =>
      let part := Part.collection place
      return (part, { known part with waiting := place :: b.waiting })
    | _ =>
      let part := Part.value (← scalarAt b.graph place)
      return (part, known part)

def meetAll (b : Building) : List Nat → Except Fault (List Part × Building)
  | [] => .ok ([], b)
  | place :: rest => do
    let (part, b) ← b.meet place
    let (parts, b) ← b.meetAll rest
    return (part :: parts, b)

def meetPairs (b : Building) : List Nat → Except Fault (List (Nat × Part × Part) × Building)
  | [] => .ok ([], b)
  | place :: rest => do
    match (b.graph.node place).shape with
    | .mapping [(key, value)] =>
      let (first, b) ← b.meet key
      let (second, b) ← b.meet value
      let number := b.nextPair
      let (pairs, b) ← { b with nextPair := number + 1 }.meetPairs rest
      return ((number, first, second) :: pairs, b)
    | _ => throw .construction

/-- The entries of a map. A collection can be no key. -/
def meetEntries (b : Building) (stored : List (Value × Part)) : List (Nat × Nat) →
    Except Fault (List (Value × Part) × Building)
  | [] => .ok (stored, b)
  | (key, value) :: rest => do
    match ← b.meet key with
    | (.collection _, _) => throw .construction
    | (.value k, b) =>
      let (part, b) ← b.meet value
      b.meetEntries (Value.store stored k part) rest

def mappingAt (b : Building) (place : Nat) : Except Fault (List (Value × Part) × Building) := do
  match (b.graph.node place).shape with
  | .mapping _ =>
    let graph ← b.graph.merge place
    { b with graph }.meetEntries [] (graph.entries place)
  | _ => throw .construction

def cellAt (b : Building) (place : Nat) : Except Fault (Cell × Building) := do
  let node := b.graph.node place
  match node.tag, node.shape with
  | .seq, .sequence items =>
    let (parts, b) ← b.meetAll items
    return (.list parts, b)
  | .omap, .sequence items | .pairs, .sequence items =>
    let (pairs, b) ← b.meetPairs items
    return (.pairs pairs, b)
  | .map, _ =>
    let (entries, b) ← b.mappingAt place
    return (.map entries, b)
  | .set, _ =>
    let (entries, b) ← b.mappingAt place
    return (.set (entries.map Prod.fst), b)
  | _, _ => throw .construction

def fill (b : Building) (place : Nat) : Except Fault Building := do
  let (cell, b) ← b.cellAt place
  return { b with cells := b.cells.setIfInBounds place (some cell) }

/-- Fills the collections that wait, and then those that were met meanwhile. A node is met once, so
the nodes bound the rounds. -/
def fillWaiting : (rounds : Nat) → Building → Except Fault Building
  | 0, b => .ok b
  | rounds + 1, b =>
    if b.waiting = [] then .ok b
    else do
      let b ← b.waiting.reverse.foldlM fill { b with waiting := [] }
      fillWaiting rounds b

end Building

/-- What the root of a graph stands for, and the collections below it. -/
structure Built where
  root : Part
  cells : Array (Option Cell)

def Rooted.build (document : Rooted) : Except Fault Built := do
  let (root, b) ← (Building.ofGraph document.graph).meet document.root
  let b ← Building.fillWaiting (document.graph.nodes.size + 1) b
  return ⟨root, b.cells⟩

end WarningSweep.Yaml
