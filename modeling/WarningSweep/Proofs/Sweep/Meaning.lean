import WarningSweep.Proofs.Marker.Unique
import WarningSweep.Proofs.Sweep.Deletion
import WarningSweep.Proofs.Sweep.Fault

/-!
# What a sweep makes of a text

The outcome of a sweep is the text without its markers, without one warning line for each region
that loses one, and without the blank lines that then start it.  No other line goes.
-/

namespace WarningSweep

open Mark Text

theorem Token.length_plain_le {first second : List Token} (within : first <+: second) :
    (Token.plain first).length ≤ (Token.plain second).length := by
  obtain ⟨rest, rfl⟩ := within
  simp

namespace Region

variable {tokens : List Token} {region leaf : Region tokens}

theorem front_opening_isPrefix (region : Region tokens) :
    region.front ++ [region.opening] <+: tokens :=
  ⟨region.inner ++ region.closing :: region.back, by simpa using region.tokens_eq.symm⟩

theorem front_isPrefix (region : Region tokens) : region.front <+: tokens :=
  (List.prefix_append _ _).trans region.front_opening_isPrefix

theorem leaf_isPrefix (isLeaf : leaf.inner = []) :
    leaf.front ++ [leaf.opening, leaf.closing] <+: tokens :=
  ⟨leaf.back, by simpa [isLeaf] using leaf.tokens_eq.symm⟩

theorem opening_le_begins (earlier : region.front.length < leaf.front.length) :
    region.begins + region.opening.before.length ≤ leaf.begins := by
  have within : region.front ++ [region.opening] <+: leaf.front := by
    refine List.prefix_of_prefix_length_le region.front_opening_isPrefix leaf.front_isPrefix ?_
    rw [List.length_append]
    exact earlier
  have size := Token.length_plain_le within
  simpa [begins] using size

theorem ends_le_begins (isLeaf : leaf.inner = [])
    (later : leaf.front.length + 1 < region.front.length) : leaf.ends ≤ region.begins := by
  have within : leaf.front ++ [leaf.opening, leaf.closing] <+: region.front := by
    refine List.prefix_of_prefix_length_le (leaf_isPrefix isLeaf) region.front_isPrefix ?_
    rw [List.length_append]
    exact later
  rw [ends_of_leaf isLeaf]
  exact Token.length_plain_le within

theorem front_length_ne (isLeaf : leaf.inner = []) :
    leaf.front.length + 1 ≠ region.front.length := by
  intro next
  have size : (region.front ++ [region.opening]).length =
      (leaf.front ++ [leaf.opening, leaf.closing]).length := by simp [← next]
  have same := (List.prefix_of_prefix_length_le region.front_opening_isPrefix (leaf_isPrefix isLeaf)
    size.le).eq_of_length size
  have last : region.opening = leaf.closing := by
    rw [List.append_cons leaf.front] at same
    simpa using (List.append_inj' same rfl).2
  have opens := region.opens
  rw [last, leaf.closes] at opens
  cases opens

theorem content_eq_of_leaf (isLeaf : leaf.inner = [])
    (same : region.front.length = leaf.front.length) :
    region.inner = [] ∧ region.content = leaf.content := by
  have split := region.tokens_eq.symm.trans leaf.tokens_eq
  rw [isLeaf, List.append_assoc, List.append_assoc] at split
  obtain ⟨-, rest⟩ := List.append_inj split same
  have rest : region.inner ++ region.closing :: region.back = leaf.closing :: leaf.back :=
    (List.cons.inj rest).2
  rcases shape : region.inner with _ | ⟨first, others⟩
  · rw [shape] at rest
    obtain ⟨closing, -⟩ := List.cons.inj rest
    exact ⟨rfl, by simp [content, shape, isLeaf, closing]⟩
  · -- a balanced sequence cannot begin with the END of the leaf
    rw [shape] at rest
    obtain ⟨rfl, -⟩ := List.cons.inj rest
    have above := region.matched.nonnegative
    rw [shape, List.map_cons, leaf.closes] at above
    exact absurd above not_neverBelow_stop

end Region

namespace Sweep

/-- A line that ends directly before the START of a region goes only if that region loses it. -/
theorem not_deletes_before {sweep : Sweep} {reading : Reading} {region : Region reading.tokens}
    (kept : ¬ sweep.Releases region) {stop : Nat} (above : region.begins ≤ stop)
    (below : stop < region.begins + region.opening.before.length) :
    ¬ sweep.Deletes reading stop := by
  rintro ⟨leaf, released, found⟩
  have isLeaf := Region.isLeaf_iff.mp released.leaf
  have lower := found.above
  have upper := found.below
  rcases Nat.lt_trichotomy region.front.length leaf.front.length with earlier | same | later
  · have := Region.opening_le_begins earlier
    omega
  · obtain ⟨inner, content⟩ := Region.content_eq_of_leaf isLeaf same
    apply kept
    refine ⟨Region.isLeaf_iff.mpr inner, ?_, ?_⟩
    · rw [content]
      exact released.nonblank
    · rw [content]
      exact released.harmless
  · have := Region.ends_le_begins isLeaf
      (Nat.lt_of_le_of_ne later (Region.front_length_ne isLeaf))
    omega

/-- A sweep that succeeds reads the text in one way.  Its outcome is the plain text of that reading
without the lines that the regions lose, each a whole line, and without the blank lines that start
what is left.  A line that ends directly before a region stays unless that region loses it. -/
theorem run_meaning (sweep : Sweep) (plain : newline ∉ sweep.warningHead) {t : Text}
    {outcome : Outcome} (swept : sweep.run t = .ok outcome) :
    ∃ reading : Reading,
      (sweep.markers.Reads 0 t reading ∧
        ∀ other, sweep.markers.Reads 0 t other → other = reading) ∧
      ∃ deleted : Finset Nat,
        (∀ stop, stop ∈ deleted ↔ sweep.Deletes reading stop) ∧
        (∀ region : Region reading.tokens, ¬ sweep.Releases region → ∀ stop, region.begins ≤ stop →
          stop < region.begins + region.opening.before.length → stop ∉ deleted) ∧
        (∃ lines : List Text, (∀ line ∈ lines, IsBlankLine line) ∧
          withoutLines deleted 0 reading.plain = lines.flatten ++ outcome.text) ∧
        ¬ BeginsBlank outcome.text := by
  obtain ⟨-, text, -⟩ := run_eq_ok_iff.mp swept
  have balanced := balanced_of_run_eq_ok swept
  obtain ⟨deleted, mem_deleted, left⟩ := exists_leftover_eq plain
    (sweep.markers.pieces t).1 (sweep.markers.pieces t).2
  refine ⟨sweep.markers.reading 0 0 t,
    ⟨sweep.markers.reads_reading 0 0 t, fun other reads => reads.eq_reading_of_balanced balanced⟩,
    deleted, mem_deleted, ?_, ?_, ?_⟩
  · intro region kept stop above below member
    exact not_deletes_before kept above below ((mem_deleted stop).mp member)
  · obtain ⟨lines, blank, split⟩ := exists_blankLines_append
      (sweep.leftover (sweep.markers.pieces t).1 (sweep.markers.pieces t).2)
    refine ⟨lines, blank, ?_⟩
    rw [text, ← split, left]
    rfl
  · rw [text]
    exact not_beginsBlank_dropBlankLines _

theorem run_meaning_of_one_region :
    let sweep : Sweep := ⟨⟨"<", ">", by decide, by decide, by decide⟩, "#w", {}, 900⟩
    newline ∉ sweep.warningHead ∧
      sweep.run "\n#w a\nf(<\"b\">)" = .ok ⟨"f(\"b\")", ⟨1, 0, 1⟩⟩ ∧
      ∃ (reading : Reading) (deleted : Finset Nat) (lines : List Text),
        sweep.markers.Reads 0 "\n#w a\nf(<\"b\">)" reading ∧
        (∀ stop, stop ∈ deleted ↔ sweep.Deletes reading stop) ∧
        (∀ line ∈ lines, IsBlankLine line) ∧
        withoutLines deleted 0 reading.plain = lines.flatten ++ ofString "f(\"b\")" := by
  intro sweep
  have plain : newline ∉ sweep.warningHead := by decide
  have swept : sweep.run "\n#w a\nf(<\"b\">)" = .ok ⟨"f(\"b\")", ⟨1, 0, 1⟩⟩ := by decide +kernel
  obtain ⟨reading, ⟨reads, -⟩, deleted, mem_deleted, -, ⟨lines, blank, split⟩, -⟩ :=
    run_meaning sweep plain swept
  exact ⟨plain, swept, reading, deleted, lines, reads, mem_deleted, blank, split⟩

end Sweep

end WarningSweep
