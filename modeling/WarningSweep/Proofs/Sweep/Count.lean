import WarningSweep.Proofs.Marker.Regions
import WarningSweep.Proofs.Sweep.Loss

/-!
# What a summary counts

Each END closes one region, and the walk judges a region at its END, so the summary of a sweep
counts the regions of the text, those that keep their warning and the lines that go.  No warning
line is made or lost but those that are counted.
-/

namespace WarningSweep

open Mark Text

theorem Region.closing_of_back_eq_nil {tokens : List Token} {token : Token}
    {region : Region (tokens ++ [token])} (last : region.back = []) :
    region.closing = token ∧ tokens = region.front ++ region.opening :: region.inner := by
  rcases region.eq_extend_or_back_eq_nil with ⟨before, rfl⟩ | ⟨-, ends, split⟩
  · simp [Region.extend] at last
  · exact ⟨ends, split⟩

namespace Sweep

def retains (sweep : Sweep) {tokens : List Token} (region : Region tokens) : Bool :=
  sweep.keeps region.inner.isEmpty region.content

theorem retains_iff {sweep : Sweep} {tokens : List Token} {region : Region tokens} :
    sweep.retains region = true ↔
      Nonempty (Region region.inner) ∨ (∀ g ∈ region.content, g.isBlank = true) ∨
        sweep.rule.needsWarning region.content = true := by
  rw [← not_isEmpty_iff, ← Region.IsLeaf, Region.isLeaf_iff, ← trim_eq_nil_iff]
  simp [retains, keeps, or_assoc, or_comm]

/-- A region is judged at its END: it is a leaf exactly when the marker before that is a START. -/
theorem retains_of_back_eq_nil {sweep : Sweep} {tokens : List Token} {token : Token}
    {region : Region (tokens ++ [token])} (last : region.back = []) :
    sweep.retains region =
      sweep.keeps (tokens.getLast?.map Token.mark = some .start) token.before := by
  obtain ⟨ends, split⟩ := region.closing_of_back_eq_nil last
  rcases shape : region.inner with _ | ⟨first, others⟩
  · have opens : tokens.getLast?.map Token.mark = some .start := by
      rw [split, shape]
      simp [region.opens]
    simp [retains, Region.content, shape, opens, ends]
  · have stops : tokens.getLast?.map Token.mark = some .stop := by
      have inner := region.matched.getLast?_eq (by simp [shape])
      rw [shape] at inner
      rw [split, shape, ← List.getLast?_map, List.map_append, List.map_cons, List.map_cons,
        List.getLast?_append_cons, List.getLast?_cons_cons]
      exact inner
    simp [retains, keeps, shape, stops]

theorem last_walk (sweep : Sweep) (pieces : List Piece) :
    (sweep.walk pieces).last = (pieces.map Piece.token).getLast?.map Token.mark := by
  obtain ⟨base, deleted, loses⟩ := sweep.exists_loses_walk pieces
  exact loses.last_eq

/-- The regions of the markers read so far, with what the walk has counted of them. -/
theorem exists_listed (sweep : Sweep) (pieces : List Piece) {tokens : List Token}
    (tokens_eq : tokens = pieces.map Piece.token)
    (above : NeverBelow 0 (tokens.map Token.mark)) :
    ∃ regions : List (Region tokens), Lists regions ∧
      regions.length = (sweep.walk pieces).summary.regions ∧
      regions.countP sweep.retains = (sweep.walk pieces).summary.kept := by
  induction pieces using List.reverseRecOn generalizing tokens with
  | nil =>
      obtain rfl : tokens = [] := tokens_eq
      exact ⟨[], .nil, rfl, rfl⟩
  | append_singleton pieces piece inductionHypothesis =>
      obtain rfl : tokens = pieces.map Piece.token ++ [piece.token] := by simpa using tokens_eq
      have earlier := above
      rw [List.map_append, neverBelow_append] at earlier
      obtain ⟨regions, lists, length, kept⟩ := inductionHypothesis rfl earlier.1
      have extended : (regions.map fun region => region.extend piece.token).countP sweep.retains =
          (sweep.walk pieces).summary.kept := by
        rw [List.countP_map, ← kept]
        rfl
      rw [walk_concat, step]
      cases mark : piece.mark with
      | start =>
          refine ⟨_, lists.start mark, ?_, extended⟩
          rw [List.length_map]
          exact length
      | stop =>
          obtain ⟨last, ends⟩ := Region.exists_back_eq_nil mark above
          have judged := sweep.retains_of_back_eq_nil ends
          rw [← sweep.last_walk pieces, Piece.token_before] at judged
          obtain ⟨-, counted, outcomes⟩ := leave_cases sweep (sweep.walk pieces) piece.before
          refine ⟨_, lists.stop ends, ?_, ?_⟩
          · simp only [List.length_cons, List.length_map]
            rw [counted, length]
          · rw [List.countP_cons, extended, judged]
            rcases outcomes with ⟨keeps, -, count, -⟩ | ⟨keeps, -, -, count, -⟩ |
              ⟨keeps, -, count, -⟩
            · simp [keeps, count]
            · simp [keeps, count]
            · simp [keeps, count]

theorem walk_regions (sweep : Sweep) (pieces : List Piece) :
    (sweep.walk pieces).summary.regions = (pieces.map Piece.mark).count .stop ∧
      (sweep.walk pieces).summary.kept + (sweep.walk pieces).summary.removed ≤
        (sweep.walk pieces).summary.regions := by
  induction pieces using List.reverseRecOn with
  | nil => exact ⟨rfl, Nat.le_refl 0⟩
  | append_singleton pieces piece inductionHypothesis =>
      obtain ⟨regions, bound⟩ := inductionHypothesis
      rw [walk_concat, step, List.map_append, List.count_append, List.map_singleton]
      cases mark : piece.mark with
      | start => exact ⟨by simpa [enter] using regions, bound⟩
      | stop =>
          obtain ⟨-, counted, outcomes⟩ := leave_cases sweep (sweep.walk pieces) piece.before
          have one : [Mark.stop].count .stop = 1 := rfl
          simp only
          rw [counted]
          refine ⟨by omega, ?_⟩
          rcases outcomes with ⟨-, -, kept, removed⟩ | ⟨-, -, -, kept, removed⟩ |
            ⟨-, -, kept, removed⟩
          · omega
          · omega
          · omega

/-- A sweep that succeeds counts as many regions as there are STARTs and ENDs, and as many kept
warnings as there are regions that hold a region, are blank or need their warning.  It counts the
lines that it deletes, never more than one for a region that is not kept.  Where the head cannot
stand in a blank line, no other warning is made or lost. -/
theorem run_counts {sweep : Sweep} {t : Text} {outcome : Outcome}
    (swept : sweep.run t = .ok outcome) :
    ∃ reading : Reading,
      (sweep.markers.Reads 0 t reading ∧
        ∀ other, sweep.markers.Reads 0 t other → other = reading) ∧
      outcome.summary.regions = (reading.tokens.map Token.mark).count .start ∧
      outcome.summary.regions = (reading.tokens.map Token.mark).count .stop ∧
      outcome.summary.regions = Nat.card (Region reading.tokens) ∧
      outcome.summary.kept = Nat.card { region : Region reading.tokens //
        Nonempty (Region region.inner) ∨ (∀ g ∈ region.content, g.isBlank = true) ∨
          sweep.rule.needsWarning region.content = true } ∧
      (∃ deleted : Finset Nat,
        (∀ stop ∈ deleted, LineEndsAt reading.plain stop) ∧
        (∀ stop ∈ deleted, ∃ region : Region reading.tokens, sweep.Releases region ∧
          region.begins ≤ stop ∧ stop < region.ends) ∧
        (newline ∉ sweep.warningHead → ∀ stop, stop ∈ deleted ↔ sweep.Deletes reading stop) ∧
        sweep.leftover (sweep.markers.pieces t).1 (sweep.markers.pieces t).2 =
          withoutLines deleted 0 reading.plain ∧
        outcome.text = dropBlankLines (withoutLines deleted 0 reading.plain) ∧
        outcome.summary.removed = deleted.card) ∧
      outcome.summary.kept + outcome.summary.removed ≤ outcome.summary.regions ∧
      (Visible sweep.warningHead →
        (warningEnds sweep.warningHead reading.plain).card =
          (warningEnds sweep.warningHead outcome.text).card + outcome.summary.removed) := by
  obtain ⟨-, text, summary⟩ := run_eq_ok_iff.mp swept
  have balanced := balanced_of_run_eq_ok swept
  have marks := Piece.map_mark_token (sweep.markers.pieces t).1
  obtain ⟨regions, lists, length, kept⟩ :=
    sweep.exists_listed (sweep.markers.pieces t).1 rfl balanced.nonnegative
  obtain ⟨counted, bound⟩ := sweep.walk_regions (sweep.markers.pieces t).1
  obtain ⟨deleted, lineEnds, reach, exact_of_plain, left, card⟩ :=
    sweep.exists_lost (sweep.markers.pieces t).1 (sweep.markers.pieces t).2
  have stops : outcome.summary.regions =
      ((sweep.markers.reading 0 0 t).tokens.map Token.mark).count .stop := by
    rw [summary, counted, ← marks]
    rfl
  refine ⟨sweep.markers.reading 0 0 t,
    ⟨sweep.markers.reads_reading 0 0 t, fun other reads => reads.eq_reading_of_balanced balanced⟩,
    ?_, stops, ?_, ?_, ⟨deleted, lineEnds, reach, exact_of_plain, left, ?_, ?_⟩, ?_, ?_⟩
  · rw [stops]
    have total := balanced.depth_eq_zero
    rw [depth_eq_count] at total
    omega
  · rw [summary, ← length]
    exact lists.card_region.symm
  · rw [summary, ← kept, ← lists.card_eq]
    exact Nat.card_congr (Equiv.subtypeEquivRight fun region => retains_iff)
  · rw [text, left]
    rfl
  · rw [summary, card]
  · rw [summary]
    exact bound
  · intro visible
    have warn : ∀ stop ∈ deleted,
        WarningEndsAt sweep.warningHead (sweep.markers.reading 0 0 t).plain stop := by
      intro stop member
      obtain ⟨region, -, found⟩ := (exact_of_plain visible.unbroken stop).mp member
      exact found.warns
    rw [text, visible.card_warningEnds_dropBlankLines, left, summary, ← card]
    exact (card_warningEnds_add_card warn).symm

/-- One warning of two goes: the second stands before a region that holds a region. -/
theorem run_counts_of_nested :
    let sweep : Sweep := ⟨⟨"<", ">", by decide, by decide, by decide⟩, "#w", {}, 900⟩
    sweep.run "\n#w a\nf(<\"b\">)\n#w c\n<g<\"d\">>\n" =
        .ok ⟨"f(\"b\")\n#w c\ng\"d\"\n", ⟨3, 1, 1⟩⟩ ∧
      ∃ reading : Reading,
        sweep.markers.Reads 0 "\n#w a\nf(<\"b\">)\n#w c\n<g<\"d\">>\n" reading ∧
        3 = Nat.card (Region reading.tokens) ∧
        1 = Nat.card { region : Region reading.tokens //
          Nonempty (Region region.inner) ∨ (∀ g ∈ region.content, g.isBlank = true) ∨
            sweep.rule.needsWarning region.content = true } ∧
        (∃ deleted : Finset Nat, (∀ stop, stop ∈ deleted ↔ sweep.Deletes reading stop) ∧
          1 = deleted.card) ∧
        (warningEnds "#w" reading.plain).card =
          (warningEnds "#w" "f(\"b\")\n#w c\ng\"d\"\n").card + 1 := by
  intro sweep
  have swept : sweep.run "\n#w a\nf(<\"b\">)\n#w c\n<g<\"d\">>\n" =
      .ok ⟨"f(\"b\")\n#w c\ng\"d\"\n", ⟨3, 1, 1⟩⟩ := by decide +kernel
  have visible : Visible sweep.warningHead :=
    ⟨by decide, .char '#', by decide, by decide, by decide⟩
  obtain ⟨reading, ⟨reads, -⟩, -, -, regions, kept, ⟨deleted, -, -, mem_deleted, -, -, removed⟩, -,
    warnings⟩ := run_counts swept
  exact ⟨swept, reading, reads, regions, kept,
    ⟨deleted, mem_deleted visible.unbroken, removed⟩, warnings visible⟩

end Sweep

end WarningSweep
