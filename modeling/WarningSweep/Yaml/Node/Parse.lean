import WarningSweep.Yaml.Node.Graph
import WarningSweep.Yaml.Token.Scan

/-!
# Nodes from tokens

The grammar of documents, read from the left with one token of lookahead. Nodes get their places in
the order in which they start. The depth of the grammar's calls is bounded by the tokens, so `steps`
is given from their number.
-/

namespace WarningSweep.Yaml

structure Reading where
  tokens : List Token
  fault : Option Fault
  graph : Graph := {}
  /-- The places of the nodes that have an anchor. -/
  anchors : List (String × Nat) := []
  handles : List (String × String) := []

namespace Reading

def peek (r : Reading) : Except Fault Token :=
  match r.tokens with
  | token :: _ => .ok token
  | [] => .error (r.fault.getD .layout)

def advance (r : Reading) : Reading := { r with tokens := r.tokens.drop 1 }

/-- Gives a node that starts here its place. A collection is put there again when it has been
read. -/
def enter (r : Reading) (anchor : Option String) (node : Node) : Except Fault (Nat × Reading) :=
  let (place, graph) := r.graph.add node
  match anchor with
  | none => .ok (place, { r with graph })
  | some name =>
    if r.anchors.any fun entry => entry.1 = name then .error .reference
    else .ok (place, { r with graph, anchors := (name, place) :: r.anchors })

def finish (r : Reading) (place : Nat) (node : Node) : Reading :=
  { r with graph := r.graph.put place node }

def resolve (r : Reading) (name : String) : Except Fault Nat :=
  match r.anchors.find? fun entry => entry.1 = name with
  | none => .error .reference
  | some (_, place) => .ok place

/-- A scalar that is not written. -/
def emptyScalar (r : Reading) : Nat × Reading :=
  let (place, graph) := r.graph.add ⟨.null, .scalar ""⟩
  (place, { r with graph })

end Reading

def standardHandles : List (String × String) := [("!", "!"), ("!!", Tag.space)]

/-- The anchor and the tag that stand before a node, in either order. -/
structure Properties where
  anchor : Option String := none
  tag : Option (Option String × String) := none

def Properties.read (r : Reading) : Except Fault (Properties × Reading) := do
  match ← r.peek with
  | .anchor name =>
    let r := r.advance
    match ← r.peek with
    | .tag handle suffix => return (⟨some name, some (handle, suffix)⟩, r.advance)
    | _ => return (⟨some name, none⟩, r)
  | .tag handle suffix =>
    let r := r.advance
    match ← r.peek with
    | .anchor name => return (⟨some name, some (handle, suffix)⟩, r.advance)
    | _ => return (⟨none, some (handle, suffix)⟩, r)
  | _ => return ({}, r)

def Properties.tagName (p : Properties) (r : Reading) : Except Fault (Option String) :=
  match p.tag with
  | none => .ok none
  | some (none, suffix) => .ok (some suffix)
  | some (some handle, suffix) =>
    match r.handles.find? fun entry => entry.1 = handle with
    | none => .error .layout
    | some (_, target) => .ok (some (target ++ suffix))

/-- The tag of a scalar: the one it has, or the one it looks like when it is plain. -/
def scalarTag (name : Option String) (plain : Bool) (text : String) : Tag :=
  match name with
  | none => if plain then Tag.ofPlain text else .str
  | some "!" => Tag.ofPlain text
  | some name => Tag.ofName name

def collectionTag (name : Option String) (standard : Tag) : Tag :=
  match name with
  | none => standard
  | some "!" => standard
  | some name => Tag.ofName name

mutual

/-- A node; `block` allows block collections, and `indentless` allows a sequence whose dashes stand
on the column of the key before it. -/
def readNode (block indentless : Bool) : (steps : Nat) → Reading → Except Fault (Nat × Reading)
  | 0, _ => .error .layout
  | steps + 1, r => do
    match ← r.peek with
    | .alias name =>
      let place ← r.advance.resolve name
      return (place, r.advance)
    | _ =>
      let (properties, r) ← Properties.read r
      let name ← properties.tagName r
      let anchor := properties.anchor
      let collection (standard : Tag) (empty : Shape) (r : Reading)
          (read : Reading → Except Fault (Shape × Reading)) : Except Fault (Nat × Reading) := do
        let tag := collectionTag name standard
        let (place, r) ← r.enter anchor ⟨tag, empty⟩
        let (shape, r) ← read r
        return (place, r.finish place ⟨tag, shape⟩)
      let sequence := collection .seq (.sequence [])
      let mapping := collection .map (.mapping [])
      match ← r.peek with
      | .scalar text plain => r.advance.enter anchor ⟨scalarTag name plain text, .scalar text⟩
      | .flowSequenceStart =>
        sequence r.advance fun r => do
          let (items, r) ← readFlowItems true steps r
          return (.sequence items, r)
      | .flowMappingStart =>
        mapping r.advance fun r => do
          let (entries, r) ← readFlowEntries true steps r
          return (.mapping entries, r)
      | token =>
        if indentless && token = .blockEntry then
          sequence r fun r => do
            let (items, r) ← readIndentlessItems steps r
            return (.sequence items, r)
        else if block && token = .blockSequenceStart then
          sequence r.advance fun r => do
            let (items, r) ← readBlockItems steps r
            return (.sequence items, r)
        else if block && token = .blockMappingStart then
          mapping r.advance fun r => do
            let (entries, r) ← readBlockEntries steps r
            return (.mapping entries, r)
        else if anchor.isSome || name.isSome then
          r.enter anchor ⟨scalarTag name true "", .scalar ""⟩
        else throw .layout

def readBlockItems : (steps : Nat) → Reading → Except Fault (List Nat × Reading)
  | 0, _ => .error .layout
  | steps + 1, r => do
    match ← r.peek with
    | .blockEntry =>
      let r := r.advance
      let next ← r.peek
      let (item, r) ←
        if next = .blockEntry || next = .blockEnd then pure r.emptyScalar
        else readNode true false steps r
      let (items, r) ← readBlockItems steps r
      return (item :: items, r)
    | .blockEnd => return ([], r.advance)
    | _ => throw .layout

def readIndentlessItems : (steps : Nat) → Reading → Except Fault (List Nat × Reading)
  | 0, _ => .error .layout
  | steps + 1, r => do
    match ← r.peek with
    | .blockEntry =>
      let r := r.advance
      let next ← r.peek
      let (item, r) ←
        if next = .blockEntry || next = .key || next = .value || next = .blockEnd then
          pure r.emptyScalar
        else readNode true false steps r
      let (items, r) ← readIndentlessItems steps r
      return (item :: items, r)
    | _ => return ([], r)

def readBlockEntries : (steps : Nat) → Reading → Except Fault (List (Nat × Nat) × Reading)
  | 0, _ => .error .layout
  | steps + 1, r => do
    match ← r.peek with
    | .key =>
      let r := r.advance
      let next ← r.peek
      let (key, r) ←
        if next = .key || next = .value || next = .blockEnd then pure r.emptyScalar
        else readNode true true steps r
      readBlockValue key steps r
    | .blockEnd => return ([], r.advance)
    | _ => throw .layout

/-- The value of a key in a block mapping, and the entries after it. -/
def readBlockValue (key : Nat) : (steps : Nat) → Reading →
    Except Fault (List (Nat × Nat) × Reading)
  | 0, _ => .error .layout
  | steps + 1, r => do
    let (value, r) ← match ← r.peek with
      | .value => do
        let r := r.advance
        let next ← r.peek
        if next = .key || next = .value || next = .blockEnd then pure r.emptyScalar
        else readNode true true steps r
      | _ => pure r.emptyScalar
    let (entries, r) ← readBlockEntries steps r
    return ((key, value) :: entries, r)

/-- The items of a sequence in brackets, up to and with the closing one. A key among them makes a
mapping of one entry. -/
def readFlowItems (first : Bool) : (steps : Nat) → Reading → Except Fault (List Nat × Reading)
  | 0, _ => .error .layout
  | steps + 1, r => do
    match ← r.peek with
    | .flowSequenceEnd => return ([], r.advance)
    | token =>
      let r ← if first then pure r else if token = .flowEntry then pure r.advance else throw .layout
      match ← r.peek with
      | .flowSequenceEnd => return ([], r.advance)
      | .key =>
        let (place, r) ← r.advance.enter none ⟨.map, .mapping []⟩
        let next ← r.peek
        let (key, r) ←
          if next = .value || next = .flowEntry || next = .flowSequenceEnd then pure r.emptyScalar
          else readNode false false steps r
        let (value, r) ← match ← r.peek with
          | .value => do
            let r := r.advance
            let next ← r.peek
            if next = .flowEntry || next = .flowSequenceEnd then pure r.emptyScalar
            else readNode false false steps r
          | _ => pure r.emptyScalar
        let r := r.finish place ⟨.map, .mapping [(key, value)]⟩
        let (items, r) ← readFlowItems false steps r
        return (place :: items, r)
      | _ =>
        let (item, r) ← readNode false false steps r
        let (items, r) ← readFlowItems false steps r
        return (item :: items, r)

/-- The entries of a mapping in braces, up to and with the closing one. -/
def readFlowEntries (first : Bool) : (steps : Nat) → Reading →
    Except Fault (List (Nat × Nat) × Reading)
  | 0, _ => .error .layout
  | steps + 1, r => do
    match ← r.peek with
    | .flowMappingEnd => return ([], r.advance)
    | token =>
      let r ← if first then pure r else if token = .flowEntry then pure r.advance else throw .layout
      match ← r.peek with
      | .flowMappingEnd => return ([], r.advance)
      | .key =>
        let r := r.advance
        let next ← r.peek
        let (key, r) ←
          if next = .value || next = .flowEntry || next = .flowMappingEnd then pure r.emptyScalar
          else readNode false false steps r
        let (value, r) ← match ← r.peek with
          | .value => do
            let r := r.advance
            let next ← r.peek
            if next = .flowEntry || next = .flowMappingEnd then pure r.emptyScalar
            else readNode false false steps r
          | _ => pure r.emptyScalar
        let (entries, r) ← readFlowEntries false steps r
        return ((key, value) :: entries, r)
      | _ =>
        let (key, r) ← readNode false false steps r
        let (value, r) := r.emptyScalar
        let (entries, r) ← readFlowEntries false steps r
        return ((key, value) :: entries, r)

end

def readDirectives : (steps : Nat) → (version : Bool) → (handles : List (String × String)) →
    Reading → Except Fault Reading
  | 0, _, _, _ => .error .layout
  | steps + 1, version, handles, r => do
    match ← r.peek with
    | .directive (.version major _) =>
      if version || major ≠ 1 then throw .layout
      readDirectives steps true handles r.advance
    | .directive (.handle name target) =>
      if handles.any fun entry => entry.1 = name then throw .layout
      readDirectives steps version ((name, target) :: handles) r.advance
    | .directive .other => readDirectives steps version handles r.advance
    | _ => return { r with handles := handles ++ standardHandles }

def skipDocumentEnds : (steps : Nat) → Reading → Reading
  | 0, r => r
  | steps + 1, r =>
    match r.tokens with
    | .documentEnd :: _ => skipDocumentEnds steps r.advance
    | _ => r

/-- The root of a document that starts with `---`, if there is one more. -/
def readExplicitDocument (steps : Nat) (r : Reading) : Except Fault (Option (Nat × Reading)) := do
  let r := skipDocumentEnds steps r
  match ← r.peek with
  | .streamEnd => return none
  | _ =>
    let r ← readDirectives steps false [] r
    if (← r.peek) ≠ .documentStart then throw .layout
    let r := r.advance
    match ← r.peek with
    | .directive _ | .documentStart | .documentEnd | .streamEnd => return some r.emptyScalar
    | _ => return some (← readNode true false steps r)

def readFirstDocument (steps : Nat) (r : Reading) : Except Fault (Option (Nat × Reading)) := do
  match ← r.peek with
  | .directive _ | .documentStart | .streamEnd => readExplicitDocument steps r
  | _ => return some (← readNode true false steps { r with handles := standardHandles })

def endDocument (r : Reading) : Except Fault Reading := do
  match ← r.peek with
  | .documentEnd => return r.advance
  | _ => return r

def Graph.ofTokens (stream : TokenStream) : Except Fault (Option Rooted) := do
  let steps := 4 * stream.tokens.length + 8
  match ← readFirstDocument steps ⟨stream.tokens, stream.fault, {}, [], []⟩ with
  | none => return none
  | some (root, r) =>
    let r := skipDocumentEnds steps (← endDocument r)
    match ← r.peek with
    | .streamEnd => return some ⟨r.graph, root⟩
    | _ =>
      let r ← readDirectives steps false [] r
      if (← r.peek) ≠ .documentStart then throw .layout
      throw .reference

end WarningSweep.Yaml
