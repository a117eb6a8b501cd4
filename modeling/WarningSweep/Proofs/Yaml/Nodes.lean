import WarningSweep.Yaml.Node.Parse

/-!
# Nodes of a block mapping

A mapping whose keys hold scalars and sequences of scalars.  Its nodes lie in the graph in the order
in which they are written: the mapping, then each key with the node that it holds and the items of
that.
-/

namespace WarningSweep.Yaml

structure Leaf where
  text : String
  plain : Bool

namespace Leaf

def token (leaf : Leaf) : Token := .scalar leaf.text leaf.plain

def tag (leaf : Leaf) : Tag := scalarTag none leaf.plain leaf.text

def node (leaf : Leaf) : Node := ⟨leaf.tag, .scalar leaf.text⟩

end Leaf

inductive Holding where
  | scalar (leaf : Leaf)
  | sequence (items : List Leaf)

namespace Holding

def tokens : Holding → List Token
  | .scalar leaf => [leaf.token]
  | .sequence [] => [.flowSequenceStart, .flowSequenceEnd]
  | .sequence items => items.flatMap fun item => [.blockEntry, item.token]

def nodes (place : Nat) : Holding → List Node
  | .scalar leaf => [leaf.node]
  | .sequence items =>
      ⟨.seq, .sequence (List.range' (place + 1) items.length)⟩ :: items.map Leaf.node

def size : Holding → Nat
  | .scalar _ => 1
  | .sequence items => items.length + 1

@[simp]
theorem length_nodes (place : Nat) (holding : Holding) :
    (holding.nodes place).length = holding.size := by
  cases holding <;> simp [nodes, size]

end Holding

/-- Keys with what they hold. -/
abbrev Outline := List (String × Holding)

namespace Outline

def keyLeaf (key : String) : Leaf := ⟨key, true⟩

def tokens (outline : Outline) : List Token :=
  outline.flatMap fun entry => .key :: (keyLeaf entry.1).token :: .value :: entry.2.tokens

def nodes (place : Nat) : Outline → List Node
  | [] => []
  | (key, holding) :: rest =>
    (keyLeaf key).node :: (holding.nodes (place + 1) ++ nodes (place + 1 + holding.size) rest)

def size : Outline → Nat
  | [] => 0
  | (_, holding) :: rest => holding.size + 1 + size rest

@[simp]
theorem length_nodes (place : Nat) (outline : Outline) :
    (outline.nodes place).length = outline.size := by
  induction outline generalizing place with
  | nil => rfl
  | cons entry outline inductionHypothesis =>
      simp only [nodes, size, List.length_cons, List.length_append, Holding.length_nodes,
        inductionHypothesis]
      omega

def places (place : Nat) : Outline → List (Nat × Nat)
  | [] => []
  | (_, holding) :: rest => (place, place + 1) :: places (place + 1 + holding.size) rest

end Outline

/-! ## Reading nodes -/

namespace Reading

def extend (r : Reading) (tokens : List Token) (nodes : List Node) : Reading :=
  { r with tokens, graph := ⟨r.graph.nodes ++ nodes.toArray⟩ }

@[simp]
theorem tokens_extend (r : Reading) (tokens : List Token) (nodes : List Node) :
    (r.extend tokens nodes).tokens = tokens := rfl

@[simp]
theorem size_extend (r : Reading) (tokens : List Token) (nodes : List Node) :
    (r.extend tokens nodes).graph.nodes.size = r.graph.nodes.size + nodes.length := by
  simp [extend]

@[simp]
theorem extend_extend (r : Reading) (tokens more : List Token) (nodes others : List Node) :
    (r.extend tokens nodes).extend more others = r.extend more (nodes ++ others) := by
  simp [extend]

theorem extend_nil {r : Reading} {tokens : List Token} (start : r.tokens = tokens) :
    r.extend tokens [] = r := by
  cases start
  simp [extend]

theorem advance_eq {r : Reading} {token : Token} {rest : List Token}
    (start : r.tokens = token :: rest) :
    r.advance = r.extend rest [] := by
  simp [advance, extend, start]

theorem peek_eq {r : Reading} {token : Token} {rest : List Token}
    (start : r.tokens = token :: rest) :
    r.peek = .ok token := by
  rw [peek, start]

theorem enter_none (r : Reading) (node : Node) :
    r.enter none node = .ok (r.graph.nodes.size, r.extend r.tokens [node]) := by
  simp [enter, Graph.add, extend]

theorem finish_extend (r : Reading) (tokens : List Token) (empty node : Node) (nodes : List Node) :
    (r.extend tokens (empty :: nodes)).finish r.graph.nodes.size node =
      r.extend tokens (node :: nodes) := by
  rw [finish, extend, extend, Graph.put]
  congr 2
  apply Array.toList_inj.mp
  simp

end Reading

section

variable {r : Reading} {rest : List Token}

theorem readNode_of_leaf {leaf : Leaf} (block indentless : Bool) {steps : Nat} (enough : 0 < steps)
    (start : r.tokens = leaf.token :: rest) :
    readNode block indentless steps r = .ok (r.graph.nodes.size, r.extend rest [leaf.node]) := by
  obtain ⟨steps, rfl⟩ := Nat.exists_eq_succ_of_ne_zero (Nat.ne_of_gt enough)
  have first := Reading.peek_eq start
  rw [readNode]
  simp only [first, bind, Except.bind, pure, Except.pure, Properties.read, Leaf.token,
    Properties.tagName]
  rw [Reading.advance_eq start, Reading.enter_none]
  simp [Leaf.node, Leaf.tag]

theorem readIndentlessItems_of_leaves {items : List Leaf} {token : Token} {steps : Nat}
    (enough : items.length < steps) (stop : token ≠ .blockEntry)
    (start : r.tokens = (items.flatMap fun item => [.blockEntry, item.token]) ++ token :: rest) :
    readIndentlessItems steps r =
      .ok (List.range' r.graph.nodes.size items.length,
        r.extend (token :: rest) (items.map Leaf.node)) := by
  obtain ⟨steps, rfl⟩ := Nat.exists_eq_succ_of_ne_zero (Nat.ne_of_gt (Nat.zero_lt_of_lt enough))
  induction items generalizing r steps with
  | nil =>
      simp only [List.flatMap_nil, List.nil_append] at start
      rw [readIndentlessItems, List.map_nil, Reading.extend_nil start]
      simp [Reading.peek_eq start, bind, Except.bind, pure, Except.pure]
  | cons item items inductionHypothesis =>
      obtain ⟨steps, rfl⟩ := Nat.exists_eq_succ_of_ne_zero (n := steps)
        (by rw [List.length_cons] at enough; omega)
      simp only [List.flatMap_cons, List.cons_append, List.nil_append] at start
      obtain ⟨later, later_eq⟩ : ∃ later,
          later = (items.flatMap fun item => [.blockEntry, item.token]) ++ token :: rest := ⟨_, rfl⟩
      rw [← later_eq] at start
      have read := readNode_of_leaf (r := r.extend (item.token :: later) []) true false
        (Nat.succ_pos steps) rfl
      have readLater := inductionHypothesis (r := r.extend later [item.node]) later_eq steps
        (by simpa using enough)
      simp only [Reading.extend_extend, Reading.size_extend, List.length_nil, List.length_singleton,
        Nat.add_zero, List.nil_append, List.singleton_append] at read readLater
      rw [readIndentlessItems]
      simp only [Reading.peek_eq start, bind, Except.bind, Reading.advance_eq start,
        Reading.peek_eq (Reading.tokens_extend _ _ _)]
      simp only [Leaf.token] at read ⊢
      simp [read, readLater, List.range'_succ, pure, Except.pure]

theorem readFlowItems_of_end {steps : Nat} (enough : 0 < steps)
    (start : r.tokens = .flowSequenceEnd :: rest) :
    readFlowItems true steps r = .ok ([], r.extend rest []) := by
  obtain ⟨steps, rfl⟩ := Nat.exists_eq_succ_of_ne_zero (Nat.ne_of_gt enough)
  rw [readFlowItems]
  simp [Reading.peek_eq start, bind, Except.bind, pure, Except.pure, Reading.advance_eq start]

theorem readNode_of_holding {holding : Holding} {token : Token} {steps : Nat}
    (enough : holding.size < steps) (stop : token ≠ .blockEntry)
    (start : r.tokens = holding.tokens ++ token :: rest) :
    readNode true true steps r =
      .ok (r.graph.nodes.size,
        r.extend (token :: rest) (holding.nodes r.graph.nodes.size)) := by
  obtain ⟨steps, rfl⟩ := Nat.exists_eq_succ_of_ne_zero (Nat.ne_of_gt (Nat.zero_lt_of_lt enough))
  match holding with
  | .scalar leaf => exact readNode_of_leaf true true (Nat.succ_pos steps) start
  | .sequence [] =>
      change r.tokens = .flowSequenceStart :: .flowSequenceEnd :: token :: rest at start
      have read := readFlowItems_of_end (r := r.extend (.flowSequenceEnd :: token :: rest)
        [⟨.seq, .sequence []⟩]) (Nat.lt_of_succ_lt_succ enough) rfl
      rw [readNode]
      simp only [Reading.peek_eq start, bind, Except.bind, pure, Except.pure, Properties.read,
        Properties.tagName, Reading.advance_eq start, Reading.enter_none, Reading.tokens_extend,
        Reading.extend_extend, Reading.size_extend, List.length_nil, Nat.add_zero, List.nil_append,
        collectionTag, read, Reading.finish_extend, List.append_nil]
      rfl
  | .sequence (item :: items) =>
      change r.tokens = .blockEntry :: item.token ::
        ((items.flatMap fun item => [.blockEntry, item.token]) ++ token :: rest) at start
      have read := @readIndentlessItems_of_leaves (r.extend r.tokens [⟨.seq, .sequence []⟩]) rest
        (item :: items) token steps (Nat.lt_of_succ_lt_succ enough) stop start
      rw [readNode]
      simp only [Reading.peek_eq start, bind, Except.bind, pure, Except.pure, Properties.read,
        Properties.tagName, Reading.enter_none, Bool.true_and, decide_true, if_true, collectionTag,
        read, Reading.extend_extend, Reading.size_extend, Reading.finish_extend,
          List.length_singleton,
        List.singleton_append]
      rfl

theorem Outline.exists_tokens_append (outline : Outline) (rest : List Token) :
    ∃ token more, outline.tokens ++ .blockEnd :: rest = token :: more ∧ token ≠ .blockEntry := by
  cases outline with
  | nil => exact ⟨_, _, rfl, by simp⟩
  | cons entry outline => exact ⟨_, _, rfl, by simp⟩

theorem Holding.exists_tokens_append (holding : Holding) (rest : List Token) :
    ∃ token more, holding.tokens ++ rest = token :: more ∧ token ≠ .key ∧ token ≠ .value ∧
      token ≠ .blockEnd := by
  match holding with
  | .scalar _ => exact ⟨_, _, rfl, by simp [Leaf.token]⟩
  | .sequence [] => exact ⟨_, _, rfl, by simp⟩
  | .sequence (_ :: _) => exact ⟨_, _, rfl, by simp⟩

theorem readBlockEntries_of_outline {outline : Outline} {steps : Nat}
    (enough : 2 * outline.length + outline.size < steps)
    (start : r.tokens = outline.tokens ++ .blockEnd :: rest) :
    readBlockEntries steps r =
      .ok (outline.places r.graph.nodes.size,
        r.extend rest (outline.nodes r.graph.nodes.size)) := by
  induction outline generalizing r steps with
  | nil =>
      obtain ⟨steps, rfl⟩ := Nat.exists_eq_succ_of_ne_zero (Nat.ne_of_gt enough)
      rw [readBlockEntries]
      simp [Reading.peek_eq start, bind, Except.bind, pure, Except.pure, Reading.advance_eq start,
        Outline.places, Outline.nodes]
  | cons entry outline inductionHypothesis =>
      obtain ⟨key, holding⟩ := entry
      obtain ⟨later, later_eq⟩ :
          ∃ later, later = Outline.tokens outline ++ .blockEnd :: rest := ⟨_, rfl⟩
      obtain ⟨token, more, next, stop⟩ := Outline.exists_tokens_append outline rest
      obtain ⟨first, others, ahead, notKey, notValue, notEnd⟩ := holding.exists_tokens_append later
      have entryStart : r.tokens = .key :: (Outline.keyLeaf key).token :: .value ::
          (holding.tokens ++ later) := by
        rw [start, later_eq]
        simp [Outline.tokens]
      simp only [List.length_cons, Outline.size] at enough
      obtain ⟨steps, rfl⟩ : ∃ fewer, steps = fewer + 2 := ⟨steps - 2, by omega⟩
      have readKey := readNode_of_leaf (r := r.extend ((Outline.keyLeaf key).token :: .value ::
        (holding.tokens ++ later)) []) true true (Nat.succ_pos steps) rfl
      have readHeld := @readNode_of_holding (r.extend (holding.tokens ++ later)
        [(Outline.keyLeaf key).node]) more holding token steps (by omega) stop
        (by rw [later_eq, next]; rfl)
      rw [← next, ← later_eq] at readHeld
      have readLater := @inductionHypothesis (r.extend later ((Outline.keyLeaf key).node ::
        holding.nodes (r.graph.nodes.size + 1))) steps (by omega) later_eq
      simp only [Reading.extend_extend, Reading.size_extend, List.length_cons, List.length_nil,
        Holding.length_nodes, Nat.zero_add, List.nil_append, List.cons_append] at readHeld readLater
      have readValue : readBlockValue r.graph.nodes.size (steps + 1)
          (r.extend (.value :: (holding.tokens ++ later)) [(Outline.keyLeaf key).node]) =
          .ok (Outline.places r.graph.nodes.size ((key, holding) :: outline),
            r.extend rest (Outline.nodes r.graph.nodes.size ((key, holding) :: outline))) := by
        rw [readBlockValue]
        simp only [Reading.peek_eq (Reading.tokens_extend _ _ _), bind, Except.bind, pure,
          Except.pure, Reading.advance_eq (Reading.tokens_extend _ _ _), Reading.extend_extend,
          List.append_nil, ahead, notKey, notValue, notEnd, decide_false, Bool.or_false,
          Bool.false_eq_true, if_false]
        rw [← ahead, readHeld]
        simp only [readLater]
        simp [Outline.places, Outline.nodes, Nat.add_assoc, Nat.add_comm 1]
      rw [readBlockEntries]
      simp only [Reading.peek_eq entryStart, bind, Except.bind, Reading.advance_eq entryStart,
        Reading.peek_eq (Reading.tokens_extend _ _ _)]
      simp only [Leaf.token] at readKey ⊢
      simp [readKey, readValue]

end

theorem Outline.size_le_length_tokens (outline : Outline) :
    2 * outline.length + outline.size ≤ outline.tokens.length := by
  induction outline with
  | nil => exact Nat.le_refl _
  | cons entry outline inductionHypothesis =>
      have held : entry.2.size ≤ entry.2.tokens.length := by
        match entry.2 with
        | .scalar _ => exact Nat.le_refl _
        | .sequence [] => decide
        | .sequence (item :: items) =>
            simp [Holding.size, Holding.tokens, List.map_const']
            omega
      simp only [tokens, size, List.length_cons, List.flatMap_cons,
        List.length_append] at inductionHypothesis ⊢
      omega

def Outline.graph (outline : Outline) : Graph :=
  ⟨(⟨.map, .mapping (outline.places 1)⟩ :: outline.nodes 1).toArray⟩

theorem Graph.ofTokens_of_outline (outline : Outline) :
    Graph.ofTokens ⟨.blockMappingStart :: (outline.tokens ++ [.blockEnd, .streamEnd]), none⟩ =
      .ok (some ⟨outline.graph, 0⟩) := by
  have enough := outline.size_le_length_tokens
  obtain ⟨tokens, tokens_eq⟩ :
      ∃ tokens, tokens = outline.tokens ++ [.blockEnd, .streamEnd] := ⟨_, rfl⟩
  obtain ⟨r, r_eq⟩ : ∃ r : Reading, r =
    ⟨.blockMappingStart :: tokens, none, {}, [], standardHandles⟩ :=
    ⟨_, rfl⟩
  have start : r.tokens = .blockMappingStart :: tokens := by rw [r_eq]
  obtain ⟨steps, steps_eq⟩ : ∃ steps, 4 * (tokens.length + 1) + 8 = steps + 1 := ⟨_, rfl⟩
  have size_eq : r.graph.nodes.size = 0 := by rw [r_eq]; rfl
  have readEntries := @readBlockEntries_of_outline
    (r.extend tokens [⟨.map, .mapping []⟩]) [.streamEnd]
    outline steps (by simp only [tokens_eq, List.length_append] at steps_eq; omega) tokens_eq
  simp only [Reading.extend_extend, Reading.size_extend, size_eq, List.length_singleton,
    Nat.zero_add, List.singleton_append] at readEntries
  have finished := r.finish_extend [.streamEnd] ⟨.map, .mapping []⟩
    ⟨.map, .mapping (outline.places 1)⟩ (outline.nodes 1)
  rw [size_eq] at finished
  obtain ⟨last, last_eq⟩ : ∃ last : Reading, last =
      r.extend [.streamEnd] (⟨.map, .mapping (outline.places 1)⟩ :: outline.nodes 1) := ⟨_, rfl⟩
  have readRoot : readNode true false (steps + 1) r = .ok (0, last) := by
    rw [readNode]
    simp only [Reading.peek_eq start, bind, Except.bind, pure, Except.pure, Properties.read,
      Properties.tagName, Reading.advance_eq start, Reading.enter_none, Reading.tokens_extend,
      Reading.extend_extend, Reading.size_extend, List.length_nil, Nat.add_zero, List.nil_append,
      collectionTag, size_eq]
    simp [readEntries, finished, last_eq]
  have lastStart : last.tokens = [.streamEnd] := by rw [last_eq, Reading.tokens_extend]
  have graph_eq : last.graph = outline.graph := by
    rw [last_eq, r_eq]
    simp [Reading.extend, Outline.graph]
  have ended : endDocument last = .ok last := by
    simp [endDocument, Reading.peek_eq lastStart, bind, Except.bind, pure, Except.pure]
  have alone (steps : Nat) : skipDocumentEnds (steps + 1) last = last := by
    rw [skipDocumentEnds, lastStart]
  have firstToken : Reading.peek ⟨.blockMappingStart :: tokens, none, {}, [], []⟩ =
      .ok .blockMappingStart := Reading.peek_eq rfl
  rw [← tokens_eq, Graph.ofTokens, List.length_cons, steps_eq]
  simp only [readFirstDocument, firstToken, bind, Except.bind, pure, Except.pure]
  rw [← r_eq, readRoot]
  simp only [ended, alone, Reading.peek_eq lastStart, graph_eq]

end WarningSweep.Yaml
