import WarningSweep.Proofs.Yaml.Building
import WarningSweep.Proofs.Yaml.Nodes

/-!
# Values of a block mapping

A mapping of texts to scalars and to lists of scalars is read off the collections that were built
for it. A list is the one that stands in the document but for its number.
-/

namespace WarningSweep.Yaml

/-! ## Values -/

namespace Built

inductive Holds (b : Built) : Part → Value → Prop
  | value (v : Value) : Holds b (.value v) v
  | list {place : Nat} {values : List Value} : b.cell place = .list (values.map Part.value) →
      Holds b (.collection place) (.list (some (objectNumber place)) values)

variable {b : Built}

theorem Holds.unique {part : Part} {first second : Value} (holds : b.Holds part first)
    (other : b.Holds part second) : second = first := by
  cases holds with
  | value _ =>
      cases other
      rfl
  | list found =>
      cases other with
      | list otherFound =>
          rw [found] at otherFound
          have same := List.map_injective_iff.mpr (fun _ _ => Part.value.inj)
            (Cell.list.inj otherFound)
          rw [same]

def Knows (b : Built) (known : Known) : Prop :=
  ∀ place v, known.getD place none = some v → b.Holds (.collection place) v

theorem bind_of_run {σ α β : Type} {x : StateM σ α} {before after : σ} {a : α} (f : α → StateM σ β)
    (run : x before = (a, after)) : (x >>= f) before = f a after := by
  simp only [bind, StateT.bind, run]

theorem valueOf_value (steps : Nat) (outer : List Nat) (v : Value) (known : Known) :
    b.valueOf steps outer (.value v) known = ((v, true), known) := by
  rw [valueOf]
  rfl

theorem mapM_valueOf_values (steps : Nat) (outer : List Nat) (values : List Value) (known : Known) :
    (values.map Part.value).mapM (b.valueOf steps outer) known =
      (values.map fun v => (v, true), known) := by
  induction values with
  | nil => rfl
  | cons v values inductionHypothesis =>
      rw [List.map_cons, List.mapM_cons, bind_of_run _ (valueOf_value steps outer v known),
        bind_of_run _ inductionHypothesis]
      rfl

theorem exists_valueOf {part : Part} {v : Value} {known : Known} (steps : Nat)
    (holds : b.Holds part v)
    (knows : b.Knows known) :
    ∃ after, b.valueOf (steps + 1) [] part known = ((v, true), after) ∧ b.Knows after := by
  cases holds with
  | value v => exact ⟨known, valueOf_value _ _ v known, knows⟩
  | @list place values found =>
      have getKnown : (get : StateM Known Known) known = (known, known) := rfl
      rw [valueOf, List.contains_nil, if_neg Bool.false_ne_true, bind_of_run _ getKnown]
      cases met : known.getD place none with
      | some v =>
          obtain rfl := Holds.unique (.list found) (knows place v met)
          exact ⟨known, rfl, knows⟩
      | none =>
          have firsts : (values.map fun v => (v, true)).map Prod.fst = values := by
            simp [Function.comp_def]
          have everywhere : (values.map fun v => (v, true)).all Prod.snd = true := by simp
          refine ⟨known.setIfInBounds place
            (some (.list (some (objectNumber place)) values)), ?_, ?_⟩
          · simp only [found]
            rw [bind_of_run _ (mapM_valueOf_values steps [place] values known), firsts, everywhere]
            rfl
          · intro other v
            rw [Array.getD_eq_getD_getElem?, Array.getElem?_setIfInBounds]
            split_ifs with same
            · rintro ⟨⟩
              exact same ▸ .list found
            · rintro ⟨⟩
            · rw [← Array.getD_eq_getD_getElem?]
              exact knows other v

/-- The value of a map whose entries hold scalars and lists of scalars. -/
theorem value_of_entries {place : Nat} {entries : List (Value × Part)} {values : List Value}
    (isRoot : b.root = .collection place) (found : b.cell place = .map entries)
    (holds : List.Forall₂ (fun entry v => b.Holds entry.2 v) entries values) :
    b.value = .map (some (objectNumber place)) ((entries.map Prod.fst).zip values) := by
  obtain ⟨make, make_eq⟩ : ∃ make : Value × Part → StateM Known (Value × Value),
      make = fun entry => (do
        let made ← b.valueOf (b.cells.size + 1) [] entry.2
        pure (entry.1, made.1)) := ⟨_, rfl⟩
  have made {known : Known} (knows : b.Knows known) :
      ∃ after, entries.mapM make known = ((entries.map Prod.fst).zip values, after) := by
    clear found
    induction holds generalizing known with
    | nil => exact ⟨known, rfl⟩
    | @cons entry v entries values first _ inductionHypothesis =>
        obtain ⟨middle, madeFirst, knowsMiddle⟩ := exists_valueOf b.cells.size first knows
        obtain ⟨after, madeRest⟩ := inductionHypothesis knowsMiddle
        have made : make entry known = ((entry.1, v), middle) := by
          rw [make_eq]
          exact bind_of_run _ madeFirst
        refine ⟨after, ?_⟩
        rw [List.mapM_cons, bind_of_run _ made, bind_of_run _ madeRest]
        rfl
  obtain ⟨after, all⟩ := @made (.replicate b.cells.size none) (by
    intro place v
    rw [getD_replicate_none]
    rintro ⟨⟩)
  have value_eq : b.value = .map (some (objectNumber place))
      (entries.mapM make (.replicate b.cells.size none)).1 := by
    rw [value, isRoot, make_eq]
    simp only [found]
    rfl
  rw [value_eq, all]

end Built

/-! ## Outlines -/

def Leaf.Reads (leaf : Leaf) (v : Value) : Prop :=
  ∀ object, scalarValue object leaf.tag leaf.text = .ok v

/-- The value that is read where a key holds something, whichever number it has. -/
inductive Holding.Reads : Holding → Value → Prop
  | scalar {leaf : Leaf} {v : Value} : leaf.Reads v → Reads (.scalar leaf) v
  | sequence {items : List Leaf} {values : List Value} (node : Option Nat) :
      List.Forall₂ Leaf.Reads items values → Reads (.sequence items) (.list node values)

def Graph.Lies (graph : Graph) : (place : Nat) → List Node → Prop
  | _, [] => True
  | place, node :: rest => graph.nodes[place]? = some node ∧ Lies graph (place + 1) rest

namespace Graph

variable {graph : Graph}

theorem lies_append {place : Nat} {first second : List Node} :
    graph.Lies place (first ++ second) ↔
      graph.Lies place first ∧ graph.Lies (place + first.length) second := by
  induction first generalizing place with
  | nil => simp [Lies]
  | cons node rest inductionHypothesis =>
      rw [List.cons_append, Lies, inductionHypothesis, Lies, List.length_cons, and_assoc,
        Nat.add_right_comm, Nat.add_assoc]

theorem lies_toArray (before nodes : List Node) :
    Lies ⟨(before ++ nodes).toArray⟩ before.length nodes := by
  induction nodes generalizing before with
  | nil => trivial
  | cons node rest inductionHypothesis =>
      refine ⟨by simp, ?_⟩
      have later := inductionHypothesis (before ++ [node])
      rw [List.append_assoc, List.length_append] at later
      exact later

/-- A part of a mapping: a scalar or a list of scalars, and its value but for the number of the
list. -/
inductive Gives (graph : Graph) : Part → Value → Prop
  | value (v : Value) : Gives graph (.value v) v
  | list {place : Nat} {items : List Nat} {values : List Value} (node : Option Nat) :
      graph.nodes[place]? = some ⟨.seq, .sequence items⟩ →
      List.Forall₂ graph.Means items (values.map Part.value) →
      Gives graph (.collection place) (.list node values)

theorem forall₂_means_of_lies {place : Nat} {items : List Leaf} {values : List Value}
    (lies : graph.Lies place (items.map Leaf.node)) (reads : List.Forall₂ Leaf.Reads items values) :
    List.Forall₂ graph.Means (List.range' place items.length) (values.map Part.value) := by
  induction reads generalizing place with
  | nil => exact .nil
  | cons first _ inductionHypothesis =>
      obtain ⟨found, later⟩ := lies
      exact .cons (.scalar found first) (inductionHypothesis later)

theorem exists_part {place : Nat} {holding : Holding} {v : Value}
    (lies : graph.Lies place (holding.nodes place)) (reads : holding.Reads v) :
    ∃ part, graph.Means place part ∧ graph.Gives part v := by
  cases reads with
  | scalar read => exact ⟨_, .scalar lies.1 read, .value v⟩
  | sequence node reads =>
      exact ⟨_, .collection lies.1 (.inl rfl),
        .list node lies.1 (forall₂_means_of_lies lies.2 reads)⟩

theorem exists_stored {place : Nat} {outline : Outline} {values : List Value}
    (lies : graph.Lies place (outline.nodes place))
    (texts : ∀ entry ∈ outline, Tag.ofPlain entry.1 = .str)
    (reads : List.Forall₂ (fun entry v => entry.2.Reads v) outline values) :
    ∃ stored : List (String × Part), stored.map Prod.fst = outline.map Prod.fst ∧
      List.Forall₂ (fun entry found => graph.nodes[entry.1]? = some ⟨.str, .scalar found.1⟩ ∧
        graph.Means entry.2 found.2) (outline.places place) stored ∧
      List.Forall₂ (fun found v => graph.Gives found.2 v) stored values := by
  induction reads generalizing place with
  | nil => exact ⟨[], rfl, .nil, .nil⟩
  | @cons entry v outline values first _ inductionHypothesis =>
      obtain ⟨key, holding⟩ := entry
      obtain ⟨keyFound, below⟩ := lies
      obtain ⟨held, later⟩ := lies_append.mp below
      rw [Holding.length_nodes] at later
      obtain ⟨part, means, gives⟩ := exists_part held first
      obtain ⟨stored, keys, found, given⟩ := inductionHypothesis later fun entry member =>
        texts entry (List.mem_cons_of_mem _ member)
      refine ⟨(key, part) :: stored, ?_, .cons ⟨?_, means⟩ found, .cons gives given⟩
      · rw [List.map_cons, keys, List.map_cons]
      · have tag_eq : Tag.ofPlain key = .str := texts (key, holding) List.mem_cons_self
        rw [keyFound, Leaf.node, Leaf.tag, Outline.keyLeaf, scalarTag]
        simp [tag_eq]

end Graph

def Renumbers (v w : Value) : Prop :=
  w = v ∨ ∃ first second items, v = .list first items ∧ w = .list second items

theorem Graph.Gives.fills {graph : Graph} {place : Nat} {v : Value}
    (gives : graph.Gives (.collection place) v) :
    ∃ node values, v = .list node values ∧ graph.Fills place (.list (values.map Part.value)) := by
  cases gives with
  | list node found means => exact ⟨node, _, rfl, .list found means⟩

theorem Built.Complete.exists_holds {graph : Graph} {b : Built} {part : Part} {v : Value}
    (complete : b.Complete graph) (gives : graph.Gives part v)
    (built : ∀ place, part = .collection place → ∃ cell, b.cells.getD place none = some cell) :
    ∃ w, b.Holds part w ∧ Renumbers v w := by
  cases part with
  | value v =>
      cases gives
      exact ⟨v, .value v, .inl rfl⟩
  | collection place =>
      obtain ⟨node, values, rfl, fills⟩ := gives.fills
      obtain ⟨cell, found⟩ := built place rfl
      have cell_eq : b.cell place = .list (values.map Part.value) := by
        rw [Built.cell, found, (complete.fills place cell found).unique fills]
        rfl
      exact ⟨_, .list cell_eq, .inr ⟨node, _, values, rfl, rfl⟩⟩

theorem Built.Complete.exists_values {graph : Graph} {b : Built} {stored : List (String × Part)}
    {values : List Value} (complete : b.Complete graph)
    (given : List.Forall₂ (fun found v => graph.Gives found.2 v) stored values)
    (built : ∀ place, .collection place ∈ stored.map Prod.snd →
      ∃ cell, b.cells.getD place none = some cell) :
    ∃ found, List.Forall₂ (fun entry w => b.Holds entry.2 w) stored found ∧
      List.Forall₂ Renumbers values found := by
  induction given with
  | nil => exact ⟨[], .nil, .nil⟩
  | cons first _ inductionHypothesis =>
      rw [List.map_cons] at built
      obtain ⟨w, holds, renumbers⟩ := complete.exists_holds first fun place same =>
        built place (same ▸ List.mem_cons_self)
      obtain ⟨found, holdsRest, renumbersRest⟩ := inductionHypothesis fun place member =>
        built place (List.mem_cons_of_mem _ member)
      exact ⟨w :: found, .cons holds holdsRest, .cons renumbers renumbersRest⟩

/-- The value of a document that holds one mapping: its keys with what they hold. -/
theorem Outline.exists_value {outline : Outline} {values : List Value}
    (distinct : (outline.map Prod.fst).Nodup)
    (texts : ∀ entry ∈ outline, Tag.ofPlain entry.1 = .str)
    (reads : List.Forall₂ (fun entry v => entry.2.Reads v) outline values) :
    ∃ found, Rooted.value ⟨outline.graph, 0⟩ = .ok (.map (some (objectNumber 0))
        ((outline.map fun entry => .str entry.1).zip found)) ∧
      List.Forall₂ Renumbers values found := by
  obtain ⟨graph, graph_eq⟩ : ∃ graph, graph = outline.graph := ⟨_, rfl⟩
  have rootFound : graph.nodes[0]? = some ⟨.map, .mapping (outline.places 1)⟩ := by
    rw [graph_eq]
    rfl
  have lies : graph.Lies 1 (outline.nodes 1) := by
    rw [graph_eq]
    exact Graph.lies_toArray [⟨.map, .mapping (outline.places 1)⟩] (outline.nodes 1)
  obtain ⟨stored, keys, found, given⟩ := Graph.exists_stored lies texts reads
  obtain ⟨root, root_eq⟩ : ∃ root : Cell,
      root = .map (stored.map fun found => (.str found.1, found.2)) := ⟨_, rfl⟩
  have rootFills : graph.Fills 0 root := root_eq ▸ .map rootFound (keys ▸ distinct) found
  have parts_eq : root.parts = stored.map Prod.snd := by
    rw [root_eq, Cell.parts, List.map_map]
    rfl
  have shallow : Building.Shallow graph (graph.nodes.size + 1) 0 := by
    refine ⟨root, rootFills, ?_⟩
    intro inner member
    obtain ⟨fewer, size_eq⟩ : ∃ fewer, graph.nodes.size = fewer + 1 :=
      Nat.exists_eq_succ_of_ne_zero (Nat.ne_of_gt (Graph.lt_size rootFound))
    -- A list among the parts holds scalars only.
    have gives : ∀ found ∈ stored, ∃ v, graph.Gives found.2 v :=
      ((List.forall₂_and_left (R := fun _ _ => True) _ _).mp
        (given.imp fun _ v held => ⟨⟨v, held⟩, trivial⟩)).1
    rw [parts_eq] at member
    obtain ⟨entry, inside, same⟩ := List.mem_map.mp member
    obtain ⟨v, held⟩ := gives entry inside
    rw [same] at held
    obtain ⟨node, values, -, fills⟩ := held.fills
    rw [size_eq]
    refine ⟨_, fills, ?_⟩
    intro other isPart
    obtain ⟨v, -, isValue⟩ := List.mem_map.mp isPart
    cases isValue
  obtain ⟨b, cell, built, isRoot, complete, rootCell⟩ :=
    Rooted.exists_build shallow (.collection rootFound (.inr rfl))
  obtain rfl : cell = root := (complete.fills 0 cell rootCell).unique rootFills
  have cell_eq : b.cell 0 = .map (stored.map fun found => (.str found.1, found.2)) := by
    rw [Built.cell, rootCell]
    exact root_eq
  obtain ⟨values, holds, renumbers⟩ := complete.exists_values given
    (parts_eq ▸ complete.inside 0 cell rootCell)
  refine ⟨values, ?_, renumbers⟩
  have value_eq := Built.value_of_entries isRoot cell_eq (List.forall₂_map_left_iff.mpr holds)
  have keys_eq : (stored.map fun found => (Value.str found.1, found.2)).map Prod.fst =
      outline.map fun entry => .str entry.1 := by
    have texts_eq := congrArg (List.map Value.str) keys
    simpa [Function.comp_def] using texts_eq
  rw [keys_eq] at value_eq
  rw [← graph_eq, Rooted.value, built, ← value_eq]
  rfl

end WarningSweep.Yaml
