import Mathlib.Data.List.Forall2
import Mathlib.Data.List.TakeDrop
import Mathlib.Data.List.TakeWhile
import WarningSweep.Yaml.Document

/-!
# Building values

Building a value meets nodes and fills collections.  What has been met and filled is right at every
step, and a collection that has been met is either filled or still waits; so at the end, when none
waits, every collection is there.
-/

namespace WarningSweep.Yaml

namespace Graph

/-- What the node at a place stands for. -/
inductive Means (graph : Graph) : Nat → Part → Prop
  | scalar {place : Nat} {tag : Tag} {text : String} {v : Value} :
      graph.nodes[place]? = some ⟨tag, .scalar text⟩ →
      (∀ object, scalarValue object tag text = .ok v) → Means graph place (.value v)
  | collection {place : Nat} {node : Node} : graph.nodes[place]? = some node →
      node.tag = .seq ∨ node.tag = .map → Means graph place (.collection place)

/-- What the collection at a place holds.  The keys of a mapping are texts. -/
inductive Fills (graph : Graph) : Nat → Cell → Prop
  | list {place : Nat} {items : List Nat} {parts : List Part} :
      graph.nodes[place]? = some ⟨.seq, .sequence items⟩ → List.Forall₂ graph.Means items parts →
      Fills graph place (.list parts)
  | map {place : Nat} {entries : List (Nat × Nat)} {stored : List (String × Part)} :
      graph.nodes[place]? = some ⟨.map, .mapping entries⟩ → (stored.map Prod.fst).Nodup →
      List.Forall₂ (fun entry found => graph.nodes[entry.1]? = some ⟨.str, .scalar found.1⟩ ∧
        graph.Means entry.2 found.2) entries stored →
      Fills graph place (.map (stored.map fun found => (.str found.1, found.2)))

variable {graph : Graph} {place : Nat}

theorem node_eq {node : Node} (found : graph.nodes[place]? = some node) :
    graph.node place = node := by
  rw [Graph.node, Array.getD_eq_getD_getElem?, found, Option.getD_some]

theorem lt_size {node : Node} (found : graph.nodes[place]? = some node) :
    place < graph.nodes.size := by
  by_contra outside
  rw [Array.getElem?_eq_none (Nat.le_of_not_lt outside)] at found
  cases found

end Graph

def Cell.parts : Cell → List Part
  | .list items => items
  | .pairs items => items.flatMap fun item => [item.2.1, item.2.2]
  | .map entries => entries.map Prod.snd
  | .set _ => []

theorem isScalar_of_scalarValue {object : Nat} {tag : Tag} {text : String} {v : Value}
    (read : scalarValue object tag text = .ok v) : tag.isScalar = true := by
  cases tag <;> first | rfl | cases read

namespace Graph

variable {graph : Graph} {place : Nat}

theorem Means.lt_size {part : Part} (means : graph.Means place part) :
    place < graph.nodes.size := by
  cases means with
  | scalar found _ => exact Graph.lt_size found
  | collection found _ => exact Graph.lt_size found

theorem Means.eq_value {part : Part} {tag : Tag} {text : String} {v : Value}
    (means : graph.Means place part) (found : graph.nodes[place]? = some ⟨tag, .scalar text⟩)
    (read : ∀ object, scalarValue object tag text = .ok v) : part = .value v := by
  cases means with
  | scalar other readOther =>
      rw [found] at other
      cases other
      have same := (read 0).symm.trans (readOther 0)
      cases same
      rfl
  | collection other kind =>
      have isScalar := isScalar_of_scalarValue (read 0)
      rw [found] at other
      cases other
      rcases kind with rfl | rfl <;> cases isScalar

theorem Means.unique {first second : Part} (means : graph.Means place first)
    (other : graph.Means place second) : first = second := by
  cases means with
  | scalar found read => exact (other.eq_value found read).symm
  | collection found kind =>
      cases other with
      | scalar otherFound read =>
          have isScalar := isScalar_of_scalarValue (read 0)
          rw [found] at otherFound
          cases otherFound
          rcases kind with rfl | rfl <;> cases isScalar
      | collection _ _ => rfl

theorem Fills.unique {first second : Cell} (fills : graph.Fills place first)
    (other : graph.Fills place second) : first = second := by
  cases fills with
  | list found means =>
      cases other with
      | list otherFound otherMeans =>
          rw [found] at otherFound
          cases otherFound
          have rightUnique : Relator.RightUnique graph.Means := fun _ _ _ => Means.unique
          rw [rightUnique.forall₂ means otherMeans]
      | map otherFound _ _ =>
          rw [found] at otherFound
          cases otherFound
  | map found _ means =>
      cases other with
      | list otherFound _ =>
          rw [found] at otherFound
          cases otherFound
      | map otherFound _ otherMeans =>
          rw [found] at otherFound
          cases otherFound
          have rightUnique : Relator.RightUnique fun (entry : Nat × Nat) (found : String × Part) =>
              graph.nodes[entry.1]? = some ⟨.str, .scalar found.1⟩ ∧
                graph.Means entry.2 found.2 := by
            rintro entry ⟨key, part⟩ ⟨otherKey, otherPart⟩ ⟨keyFound, partMeans⟩
              ⟨otherFound, otherMeans⟩
            rw [keyFound] at otherFound
            cases otherFound
            exact Prod.ext rfl (partMeans.unique otherMeans)
          rw [rightUnique.forall₂ means otherMeans]

/-! ## Merging -/

theorem merge_of_texts (texts : ∀ entry ∈ graph.entries place, graph.tag entry.1 = .str) :
    graph.merge place = .ok graph := by
  have noMerge : graph.takeMerge? place = none := by
    have all : ∀ entry ∈ graph.entries place, (graph.tag entry.1 ≠ .merge : Bool) = true := by
      intro entry member
      rw [texts entry member]
      rfl
    rw [takeMerge?, List.span_eq_takeWhile_dropWhile, List.dropWhile_eq_nil_iff.mpr all]
  have noDefault : graph.nameDefaults place = graph := by
    rw [nameDefaults]
    generalize graph.entries place = entries at texts
    induction entries with
    | nil => rfl
    | cons entry entries inductionHypothesis =>
        rw [List.foldl_cons, texts entry List.mem_cons_self]
        exact inductionHypothesis fun entry member => texts entry (List.mem_cons_of_mem _ member)
  rw [merge, mergeFrom, noMerge]
  simp [noDefault]

end Graph

namespace Building

/-- A building in which all that was met and filled is right.  The collections that were met and are
not filled yet wait, or are among those that are filled next. -/
structure Sound (graph : Graph) (pending : List Nat) (b : Building) : Prop where
  graph_eq : b.graph = graph
  size_met : b.met.size = graph.nodes.size
  size_cells : b.cells.size = graph.nodes.size
  met : ∀ place part, b.met.getD place none = some part → graph.Means place part
  cells : ∀ place cell, b.cells.getD place none = some cell → graph.Fills place cell
  inside : ∀ place cell, b.cells.getD place none = some cell →
    ∀ inner, .collection inner ∈ cell.parts →
    b.met.getD inner none = some (.collection inner)
  waiting : ∀ place ∈ b.waiting, b.met.getD place none = some (.collection place)
  waits : ∀ place, b.met.getD place none = some (.collection place) →
    place ∈ b.waiting ∨ place ∈ pending ∨ ∃ cell, b.cells.getD place none = some cell

structure Meets (parts : List Part) (before after : Building) : Prop where
  kept : ∀ place part, before.met.getD place none = some part →
    after.met.getD place none = some part
  cells_eq : after.cells = before.cells
  found : ∀ place, .collection place ∈ parts → after.met.getD place none = some (.collection place)
  waiting : ∀ place ∈ after.waiting, place ∈ before.waiting ∨ .collection place ∈ parts

section

variable {graph : Graph} {pending : List Nat} {b : Building} {place : Nat}

theorem getD_setIfInBounds {α : Type} (entries : Array (Option α)) {place other : Nat} {value : α}
    (inside : place < entries.size) :
    (entries.setIfInBounds place (some value)).getD other none =
      if place = other then some value else entries.getD other none := by
  simp only [Array.getD_eq_getD_getElem?, Array.getElem?_setIfInBounds]
  split_ifs <;> rfl

theorem scalarAt_of_scalar {tag : Tag} {text : String} {v : Value}
    (found : graph.nodes[place]? = some ⟨tag, .scalar text⟩)
    (read : ∀ object, scalarValue object tag text = .ok v) : scalarAt graph place = .ok v := by
  have node_eq := Graph.node_eq found
  have text_eq : textAt graph (graph.nodes.size + 1) place = .ok text := by
    rw [textAt, node_eq]
  rw [scalarAt]
  simp [node_eq, isScalar_of_scalarValue (read 0), text_eq, bind, Except.bind, read]

theorem Sound.lt_size_met {part : Part} (sound : b.Sound graph pending)
    (means : graph.Means place part) : place < b.met.size := by
  rw [sound.size_met]
  exact means.lt_size

/-- A part that was not met before is noted, and waits if it is a collection. -/
theorem Sound.meets {part : Part} {waiting : List Nat} (sound : b.Sound graph pending)
    (means : graph.Means place part) (unmet : b.met.getD place none = none)
    (only : ∀ other ∈ waiting, other ∈ b.waiting ∨ part = .collection other) :
    Meets [part] b { b with met := b.met.setIfInBounds place (some part), waiting } where
  kept := by
    intro other found met
    rw [getD_setIfInBounds _ (sound.lt_size_met means), if_neg, met]
    rintro rfl
    rw [unmet] at met
    cases met
  cells_eq := rfl
  found := by
    intro other member
    obtain rfl := List.mem_singleton.mp member
    have same : other = place := by cases means; rfl
    rw [same, getD_setIfInBounds _ (sound.lt_size_met (same ▸ means)), if_pos rfl]
  waiting := by
    intro other member
    exact (only other member).imp_right fun same => by rw [same]; exact List.mem_singleton_self _

theorem Sound.note {part : Part} {waiting : List Nat} (sound : b.Sound graph pending)
    (means : graph.Means place part) (unmet : b.met.getD place none = none)
    (known : ∀ other ∈ b.waiting, other ∈ waiting)
    (only : ∀ other ∈ waiting, other ∈ b.waiting ∨ part = .collection other)
    (waits : part = .collection place → place ∈ waiting) :
    Sound graph pending { b with met := b.met.setIfInBounds place (some part), waiting } where
  graph_eq := sound.graph_eq
  size_met := by rw [Array.size_setIfInBounds, sound.size_met]
  size_cells := sound.size_cells
  met := by
    intro other found
    rw [getD_setIfInBounds _ (sound.lt_size_met means)]
    split_ifs with same
    · rintro ⟨⟩
      exact same ▸ means
    · exact sound.met other found
  cells := sound.cells
  inside := fun other cell filled inner member =>
    (sound.meets means unmet only).kept inner _ (sound.inside other cell filled inner member)
  waiting := by
    intro other member
    have meets := sound.meets means unmet only
    rcases only other member with earlier | rfl
    · exact meets.kept other _ (sound.waiting other earlier)
    · exact meets.found other (List.mem_singleton_self _)
  waits := by
    intro other
    rw [getD_setIfInBounds _ (sound.lt_size_met means)]
    split_ifs with same
    · rintro ⟨⟩
      exact .inl (same ▸ waits (by rw [same]))
    · intro met
      exact (sound.waits other met).imp_left (known other)

/-- A node that can be met is met, and waits if it is a collection met for the first time. -/
theorem exists_meet {part : Part} (sound : b.Sound graph pending) (means : graph.Means place part) :
    ∃ after, b.meet place = .ok (part, after) ∧ after.Sound graph pending ∧
      Meets [part] b after := by
  rw [meet]
  cases met : b.met.getD place none with
  | some found =>
      obtain rfl := (sound.met place found met).unique means
      refine ⟨b, rfl, sound, fun _ _ => id, rfl, ?_, fun _ => .inl⟩
      intro other member
      obtain rfl := List.mem_singleton.mp member
      have same : other = place := by cases means; rfl
      rw [same, met, same]
  | none =>
      cases means with
      | @scalar tag text v found read =>
          have means : graph.Means place (.value v) := .scalar found read
          refine ⟨_, ?_, sound.note means met (fun _ => id) (fun _ => .inl) (by simp),
            sound.meets means met fun _ => .inl⟩
          have isScalar := isScalar_of_scalarValue (read 0)
          have tag_eq : b.graph.tag place = tag := by
            rw [sound.graph_eq, Graph.tag, Graph.node_eq found]
          have value_eq : scalarAt b.graph place = .ok v := by
            rw [sound.graph_eq, scalarAt_of_scalar found read]
          simp only [tag_eq, value_eq]
          cases tag <;> first | rfl | cases isScalar
      | @collection node found kind =>
          have tag_eq : b.graph.tag place = node.tag := by
            rw [sound.graph_eq, Graph.tag, Graph.node_eq found]
          have means : graph.Means place (.collection place) := .collection found kind
          have only : ∀ other ∈ place :: b.waiting,
              other ∈ b.waiting ∨ Part.collection place = .collection other := by
            intro other member
            rcases List.mem_cons.mp member with rfl | member
            · exact .inr rfl
            · exact .inl member
          refine ⟨_, ?_, sound.note means met (fun _ => List.mem_cons_of_mem _) only
            (fun _ => List.mem_cons_self), sound.meets means met only⟩
          simp only [tag_eq]
          rcases kind with kind | kind <;> rw [kind] <;> rfl

theorem Meets.refl (b : Building) : Meets [] b b :=
  ⟨fun _ _ => id, rfl, by simp, fun _ => .inl⟩

theorem Meets.trans {first second : List Part} {middle after : Building}
    (before : Meets first b middle)
    (later : Meets second middle after) : Meets (first ++ second) b after where
  kept := fun place part met => later.kept place part (before.kept place part met)
  cells_eq := later.cells_eq.trans before.cells_eq
  found := by
    intro place member
    rcases List.mem_append.mp member with inFirst | inSecond
    · exact later.kept place _ (before.found place inFirst)
    · exact later.found place inSecond
  waiting := by
    intro place member
    rw [List.mem_append]
    rcases later.waiting place member with earlier | inSecond
    · exact (before.waiting place earlier).imp_right .inl
    · exact .inr (.inr inSecond)

theorem exists_meetAll {items : List Nat} {parts : List Part} (sound : b.Sound graph pending)
    (means : List.Forall₂ graph.Means items parts) :
    ∃ after, b.meetAll items = .ok (parts, after) ∧ after.Sound graph pending ∧
      Meets parts b after := by
  induction means generalizing b with
  | nil => exact ⟨b, rfl, sound, .refl b⟩
  | cons first _ inductionHypothesis =>
      obtain ⟨middle, met, soundMiddle, meets⟩ := exists_meet sound first
      obtain ⟨after, metRest, soundAfter, meetsRest⟩ := inductionHypothesis soundMiddle
      refine ⟨after, ?_, soundAfter, meets.trans meetsRest⟩
      rw [meetAll, met]
      simp only [bind, Except.bind, metRest]
      rfl

theorem store_of_new {stored : List (String × Part)} {key : String} (part : Part)
    (fresh : key ∉ stored.map Prod.fst) :
    Value.store (stored.map fun found => (.str found.1, found.2)) (.str key) part =
      (stored ++ [(key, part)]).map fun found => (.str found.1, found.2) := by
  have unknown : ((stored.map fun found => (Value.str found.1, found.2)).any fun entry =>
      entry.1.agree (.str key)) = false := by
    rw [List.any_eq_false]
    intro entry member
    obtain ⟨found, inside, rfl⟩ := List.mem_map.mp member
    have apart : found.1 ≠ key := fun same => fresh (same ▸ List.mem_map_of_mem inside)
    simp [Value.agree, Value.identical, Value.node?, Value.same, apart]
  rw [Value.store, unknown]
  simp

theorem exists_meetEntries {entries : List (Nat × Nat)} {stored found : List (String × Part)}
    (sound : b.Sound graph pending) (distinct : ((stored ++ found).map Prod.fst).Nodup)
    (means : List.Forall₂ (fun entry found => graph.nodes[entry.1]? = some ⟨.str, .scalar found.1⟩ ∧
      graph.Means entry.2 found.2) entries found) :
    ∃ after, b.meetEntries (stored.map fun found => (.str found.1, found.2)) entries =
        .ok ((stored ++ found).map fun found => (.str found.1, found.2), after) ∧
      after.Sound graph pending ∧ Meets (found.map Prod.snd) b after := by
  induction means generalizing b stored with
  | nil => exact ⟨b, by rw [List.append_nil]; rfl, sound, .refl b⟩
  | @cons entry first entries found meansFirst _ inductionHypothesis =>
      obtain ⟨keyFound, valueMeans⟩ := meansFirst
      have keyMeans : graph.Means entry.1 (.value (.str first.1)) := .scalar keyFound fun _ => rfl
      obtain ⟨afterKey, metKey, soundKey, meetsKey⟩ := exists_meet sound keyMeans
      obtain ⟨afterValue, metValue, soundValue, meetsValue⟩ := exists_meet soundKey valueMeans
      have together : stored ++ [first] ++ found = stored ++ first :: found := by simp
      obtain ⟨after, metRest, soundAfter, meetsRest⟩ :=
        @inductionHypothesis afterValue (stored ++ [first]) soundValue
          (by rw [together]; exact distinct)
      have fresh : first.1 ∉ stored.map Prod.fst := by
        rw [List.map_append, List.map_cons, List.nodup_append] at distinct
        intro inside
        exact distinct.2.2 _ inside _ List.mem_cons_self rfl
      refine ⟨after, ?_, soundAfter, ?_⟩
      · rw [meetEntries, metKey]
        simp only [bind, Except.bind, metValue]
        rw [store_of_new first.2 fresh, metRest, together]
      · have all := (meetsKey.trans meetsValue).trans meetsRest
        refine ⟨all.kept, all.cells_eq, ?_, ?_⟩
        · intro place member
          exact all.found place (by simpa using member)
        · intro place member
          simpa using all.waiting place member

theorem exists_cellAt {cell : Cell} (sound : b.Sound graph pending)
    (fills : graph.Fills place cell) :
    ∃ after, b.cellAt place = .ok (cell, after) ∧ after.Sound graph pending ∧
      Meets cell.parts b after := by
  cases fills with
  | list found means =>
      obtain ⟨after, met, soundAfter, meets⟩ := exists_meetAll sound means
      refine ⟨after, ?_, soundAfter, meets⟩
      rw [cellAt]
      simp only [sound.graph_eq, Graph.node_eq found, met, bind, Except.bind]
      rfl
  | @map entries stored found distinct means =>
      have entries_eq : graph.entries place = entries := by rw [Graph.entries, Graph.node_eq found]
      have texts : ∀ entry ∈ entries, graph.tag entry.1 = .str := by
        refine ((List.forall₂_and_left (R := fun _ _ => True) _ _).mp (means.imp ?_)).1
        intro entry found held
        exact ⟨by rw [Graph.tag, Graph.node_eq held.1], trivial⟩
      have merged : graph.merge place = .ok graph := Graph.merge_of_texts (entries_eq ▸ texts)
      obtain ⟨after, met, soundAfter, meets⟩ := @exists_meetEntries graph pending b entries []
        stored sound distinct means
      refine ⟨after, ?_, soundAfter, ?_⟩
      · have same : { b with graph } = b := by rw [← sound.graph_eq]
        have read : b.mappingAt place =
            .ok (stored.map fun found => (.str found.1, found.2), after) := by
          rw [mappingAt]
          simp only [sound.graph_eq, Graph.node_eq found, merged, bind, Except.bind,
            entries_eq, same]
          exact met
        rw [cellAt]
        simp only [sound.graph_eq, Graph.node_eq found, bind, Except.bind, read]
        rfl
      · rw [Cell.parts, List.map_map]
        exact meets

theorem exists_fill {cell : Cell} (sound : b.Sound graph (place :: pending))
    (fills : graph.Fills place cell) (met : b.met.getD place none = some (.collection place)) :
    ∃ after, b.fill place = .ok after ∧ after.Sound graph pending ∧
      (∀ other part, b.met.getD other none = some part → after.met.getD other none = some part) ∧
      ∀ other ∈ after.waiting, other ∈ b.waiting ∨ .collection other ∈ cell.parts := by
  obtain ⟨middle, read, soundMiddle, meets⟩ := exists_cellAt sound fills
  have inside : place < middle.cells.size := by
    rw [soundMiddle.size_cells]
    exact (soundMiddle.met place _ (meets.kept place _ met)).lt_size
  refine ⟨{ middle with cells := middle.cells.setIfInBounds place (some cell) }, ?_, ?_, meets.kept,
    meets.waiting⟩
  · rw [fill, read]
    rfl
  · refine ⟨soundMiddle.graph_eq, soundMiddle.size_met, ?_, soundMiddle.met, ?_, ?_,
      soundMiddle.waiting, ?_⟩
    · rw [Array.size_setIfInBounds, soundMiddle.size_cells]
    · intro other found
      rw [getD_setIfInBounds _ inside]
      split_ifs with same
      · rintro ⟨⟩
        exact same ▸ fills
      · exact soundMiddle.cells other found
    · intro other found
      rw [getD_setIfInBounds _ inside]
      split_ifs with same
      · rintro ⟨⟩
        exact meets.found
      · exact soundMiddle.inside other found
    · intro other metOther
      rw [getD_setIfInBounds _ inside]
      rcases soundMiddle.waits other metOther with waits | isPending | filled
      · exact .inl waits
      · rcases List.mem_cons.mp isPending with rfl | isPending
        · exact .inr (.inr ⟨cell, if_pos rfl⟩)
        · exact .inr (.inl isPending)
      · refine .inr (.inr ?_)
        split_ifs
        · exact ⟨cell, rfl⟩
        · exact filled

/-- All that is pending is filled; `P` holds of the collections that are met meanwhile. -/
theorem exists_foldlM_fill {P : Nat → Prop} (sound : b.Sound graph pending)
    (met : ∀ place ∈ pending, b.met.getD place none = some (.collection place))
    (fills : ∀ place ∈ pending, ∃ cell, graph.Fills place cell ∧
      ∀ inner, .collection inner ∈ cell.parts → P inner) :
    ∃ after, pending.foldlM fill b = .ok after ∧ after.Sound graph [] ∧
      (∀ other part, b.met.getD other none = some part → after.met.getD other none = some part) ∧
      ∀ other ∈ after.waiting, other ∈ b.waiting ∨ P other := by
  induction pending generalizing b with
  | nil => exact ⟨b, rfl, sound, fun _ _ => id, fun _ => .inl⟩
  | cons place pending inductionHypothesis =>
      obtain ⟨cell, cellFills, holds⟩ := fills place List.mem_cons_self
      obtain ⟨middle, filled, soundMiddle, kept, waiting⟩ :=
        exists_fill sound cellFills (met place List.mem_cons_self)
      obtain ⟨after, filledRest, soundAfter, keptRest, waitingRest⟩ :=
        inductionHypothesis soundMiddle
        (fun other member => kept other _ (met other (List.mem_cons_of_mem _ member)))
        fun other member => fills other (List.mem_cons_of_mem _ member)
      refine ⟨after, ?_, soundAfter, fun other part metOther =>
        keptRest other part (kept other part metOther), ?_⟩
      · rw [List.foldlM_cons, filled]
        exact filledRest
      · intro other member
        rcases waitingRest other member with earlier | held
        · exact (waiting other earlier).imp_right (holds other)
        · exact .inr held

end

/-- Collections that can be filled, and nest no deeper than this. -/
def Shallow (graph : Graph) : (depth : Nat) → (place : Nat) → Prop
  | 0, _ => False
  | depth + 1, place => ∃ cell, graph.Fills place cell ∧
      ∀ inner, .collection inner ∈ cell.parts → Shallow graph depth inner

theorem exists_fillWaiting {graph : Graph} {b : Building} {rounds : Nat} (sound : b.Sound graph [])
    (shallow : ∀ place ∈ b.waiting, Shallow graph rounds place) :
    ∃ after, fillWaiting rounds b = .ok after ∧ after.Sound graph [] ∧ after.waiting = [] ∧
      ∀ other part, b.met.getD other none = some part → after.met.getD other none = some part := by
  induction rounds generalizing b with
  | zero =>
      refine ⟨b, rfl, sound, ?_, fun _ _ => id⟩
      exact List.eq_nil_iff_forall_not_mem.mpr shallow
  | succ rounds inductionHypothesis =>
      rw [fillWaiting]
      split_ifs with nothing
      · exact ⟨b, rfl, sound, nothing, fun _ _ => id⟩
      · have soundRound : Sound graph b.waiting.reverse { b with waiting := [] } := by
          refine ⟨sound.graph_eq, sound.size_met, sound.size_cells, sound.met, sound.cells,
            sound.inside, by simp, ?_⟩
          intro place met
          rcases sound.waits place met with waits | isPending | filled
          · exact .inr (.inl (List.mem_reverse.mpr waits))
          · cases isPending
          · exact .inr (.inr filled)
        obtain ⟨middle, filled, soundMiddle, kept, waiting⟩ := exists_foldlM_fill soundRound
          (fun place member => sound.waiting place (List.mem_reverse.mp member))
          fun place member => shallow place (List.mem_reverse.mp member)
        obtain ⟨after, filledRest, soundAfter, none, keptRest⟩ := inductionHypothesis soundMiddle
          fun place member => (waiting place member).resolve_left (by simp)
        refine ⟨after, ?_, soundAfter, none, fun other part met =>
          keptRest other part (kept other part met)⟩
        rw [filled]
        exact filledRest

end Building

structure Built.Complete (graph : Graph) (b : Built) : Prop where
  size_eq : b.cells.size = graph.nodes.size
  fills : ∀ place cell, b.cells.getD place none = some cell → graph.Fills place cell
  inside : ∀ place cell, b.cells.getD place none = some cell →
    ∀ inner, .collection inner ∈ cell.parts →
    ∃ innerCell, b.cells.getD inner none = some innerCell

theorem getD_replicate_none {α : Type} (count place : Nat) :
    (Array.replicate count (none : Option α)).getD place none = none := by
  rw [Array.getD_eq_getD_getElem?, Array.getElem?_replicate]
  split_ifs <;> rfl

/-- The collections of a graph that does not nest too deep are all built. -/
theorem Rooted.exists_build {graph : Graph} {root : Nat}
    (shallow : Building.Shallow graph (graph.nodes.size + 1) root)
    (means : graph.Means root (.collection root)) :
    ∃ b cell, Rooted.build ⟨graph, root⟩ = .ok b ∧ b.root = .collection root ∧ b.Complete graph ∧
      b.cells.getD root none = some cell := by
  have start : Building.Sound graph [] (Building.ofGraph graph) := by
    refine ⟨rfl, by simp [Building.ofGraph], by simp [Building.ofGraph], ?_, ?_, ?_, ?_, ?_⟩ <;>
      simp only [Building.ofGraph, getD_replicate_none] <;> simp
  obtain ⟨first, met, soundFirst, meets⟩ := Building.exists_meet start means
  obtain ⟨last, filled, sound, vacant, kept⟩ := Building.exists_fillWaiting soundFirst (by
    intro place member
    rcases meets.waiting place member with earlier | isRoot
    · cases earlier
    · cases List.mem_singleton.mp isRoot
      exact shallow)
  -- Nothing waits any more, so what was met is filled.
  have complete (place : Nat) (metPlace : last.met.getD place none = some (.collection place)) :
      ∃ cell, last.cells.getD place none = some cell := by
    rcases sound.waits place metPlace with waits | isPending | filled
    · rw [vacant] at waits
      cases waits
    · cases isPending
    · exact filled
  obtain ⟨cell, found⟩ :=
    complete root (kept root _ (meets.found root (List.mem_singleton_self _)))
  refine ⟨⟨.collection root, last.cells⟩, cell, ?_, rfl,
    ⟨sound.size_cells, sound.cells, fun place cell found inner member =>
      complete inner (sound.inside place cell found inner member)⟩, found⟩
  rw [Rooted.build, met]
  simp only [bind, Except.bind, filled]
  rfl

end WarningSweep.Yaml
