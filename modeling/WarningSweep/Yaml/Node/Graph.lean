import WarningSweep.Yaml.Cursor
import WarningSweep.Yaml.Tag

/-!
# The graph of a document

Nodes that name each other by their places, and the merging of mappings into mappings.
-/

namespace WarningSweep.Yaml

/-! ## Nodes

A document is a graph of scalars, sequences and mappings. Every node has a place in the graph, and
names the nodes inside it by their places. An alias is a place that is named more than once, so a
node can stand inside itself.
-/

inductive Shape where
  | scalar (text : String)
  | sequence (items : List Nat)
  | mapping (entries : List (Nat × Nat))
  deriving Inhabited, Repr

structure Node where
  tag : Tag
  shape : Shape
  deriving Inhabited, Repr

structure Graph where
  nodes : Array Node := #[]
  deriving Inhabited, Repr

namespace Graph

def node (graph : Graph) (place : Nat) : Node := graph.nodes.getD place default

def tag (graph : Graph) (place : Nat) : Tag := (graph.node place).tag

def add (graph : Graph) (node : Node) : Nat × Graph :=
  (graph.nodes.size, ⟨graph.nodes.push node⟩)

def put (graph : Graph) (place : Nat) (node : Node) : Graph :=
  ⟨graph.nodes.setIfInBounds place node⟩

def entryCount (graph : Graph) : Nat :=
  graph.nodes.foldl (fun count node => match node.shape with
    | .mapping entries => count + entries.length
    | _ => count) 0

end Graph

structure Rooted where
  graph : Graph
  root : Nat

/-! ## Merge keys

A merge key brings the entries of a mapping, or of several, into the mapping that it stands in. They
come before the mapping's own entries, which win. Merging changes the nodes themselves, so a mapping
is merged once, and a mapping that is merged into itself brings what it has left.
-/

namespace Graph

/-- The entries of a mapping; other nodes have none. -/
def entries (graph : Graph) (place : Nat) : List (Nat × Nat) :=
  match (graph.node place).shape with
  | .mapping entries => entries
  | _ => []

def setEntries (graph : Graph) (place : Nat) (entries : List (Nat × Nat)) : Graph :=
  graph.put place ⟨graph.tag place, .mapping entries⟩

/-- What the first merge key of a mapping names, and the graph without that entry. -/
def takeMerge? (graph : Graph) (place : Nat) : Option (Nat × Graph) :=
  let entries := graph.entries place
  match entries.span fun entry => graph.tag entry.1 ≠ .merge with
  | (before, (_, source) :: after) => some (source, graph.setEntries place (before ++ after))
  | (_, []) => none

/-- The sign for a default value is a string when it is the key of a mapping that is merged. -/
def nameDefaults (graph : Graph) (place : Nat) : Graph :=
  (graph.entries place).foldl (fun graph entry =>
    if graph.tag entry.1 = .defaultValue then
      graph.put entry.1 { graph.node entry.1 with tag := .str }
    else graph) graph

/-- Merges what the merge keys of a mapping name into it; `brought` are the entries brought so far.
Each merge key is taken away before it is followed, so the entries of the graph bound the steps. -/
def mergeFrom : (steps : Nat) → (brought : List (Nat × Nat)) → Graph → (place : Nat) →
    Except Fault Graph
  | 0, _, graph, _ => .ok graph
  | steps + 1, brought, graph, place =>
    match graph.takeMerge? place with
    | none =>
      let graph := graph.nameDefaults place
      .ok (if brought = [] then graph else graph.setEntries place (brought ++ graph.entries place))
    | some (source, graph) =>
      match (graph.node source).shape with
      | .mapping _ => do
        let graph ← mergeFrom steps [] graph source
        mergeFrom steps (brought ++ graph.entries source) graph place
      | .sequence items => do
        let (graph, lists) ← items.foldlM (fun (graph, lists) item =>
          match (graph.node item).shape with
          | .mapping _ => do
            let graph ← mergeFrom steps [] graph item
            return (graph, graph.entries item :: lists)
          | _ => throw Fault.construction) (graph, ([] : List (List (Nat × Nat))))
        mergeFrom steps (brought ++ lists.flatten) graph place
      | .scalar _ => .error .construction

def merge (graph : Graph) (place : Nat) : Except Fault Graph :=
  mergeFrom (graph.entryCount + 1) [] graph place

end Graph

end WarningSweep.Yaml
