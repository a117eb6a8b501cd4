import WarningSweep.Proofs.LeafRule
import WarningSweep.Proofs.Sweep.Loss
import WarningSweep.Proofs.Sweep.Residue

/-!
# Leaves that begin with a word

A leaf that holds a variable or a call begins with a word.  It keeps its warning unless the word for
literals begins that word: a longer word is then taken for a literal, and the sweep deletes a
warning that is still needed.
-/

namespace WarningSweep

open Text

theorem Region.front_length_eq_of_reach {tokens : List Token} {region other : Region tokens}
    (leaf : region.inner = []) (otherLeaf : other.inner = []) {stop : Nat}
    (above : region.begins ≤ stop) (below : stop < region.ends)
    (otherAbove : other.begins ≤ stop) (otherBelow : stop < other.ends) :
    region.front.length = other.front.length := by
  rcases Nat.lt_trichotomy region.front.length other.front.length with earlier | same | later
  · have apart : region.ends ≤ other.begins :=
      Region.ends_le_begins leaf (Nat.lt_of_le_of_ne earlier (Region.front_length_ne leaf))
    omega
  · exact same
  · have apart : other.ends ≤ region.begins :=
      Region.ends_le_begins otherLeaf (Nat.lt_of_le_of_ne later (Region.front_length_ne otherLeaf))
    omega

namespace Sweep

theorem Releases.of_reach {sweep : Sweep} {tokens : List Token} {region other : Region tokens}
    (released : sweep.Releases other) (leaf : region.IsLeaf) {stop : Nat}
    (above : region.begins ≤ stop) (below : stop < region.ends)
    (otherAbove : other.begins ≤ stop) (otherBelow : stop < other.ends) :
    sweep.Releases region := by
  have otherLeaf := Region.isLeaf_iff.mp released.leaf
  have same := Region.front_length_eq_of_reach (Region.isLeaf_iff.mp leaf) otherLeaf above below
    otherAbove otherBelow
  obtain ⟨-, content⟩ := Region.content_eq_of_leaf otherLeaf same
  exact ⟨leaf, content ▸ released.nonblank, content ▸ released.harmless⟩

/-- A leaf that begins with a word loses its warning exactly when the word for literals begins that
word and no conversion is unsafe. -/
theorem releases_iff_of_word {sweep : Sweep}
    (worded : ∀ g ∈ ofString sweep.rule.literalWord, g.isWord = true) {tokens : List Token}
    {region : Region tokens} (leaf : region.IsLeaf) {word : Text}
    (begins : LeafRule.BeginsWithWord region.content word) :
    sweep.Releases region ↔
      ofString sweep.rule.literalWord <+: word ∧
        ¬ LeafRule.HasUnsafeConversion region.content := by
  have judged := LeafRule.needsWarning_iff_of_word worded begins
  rw [← not_iff_not, Bool.not_eq_true, not_or, not_not] at judged
  rw [← judged]
  constructor
  · exact fun released => released.harmless
  · exact fun harmless => ⟨leaf, begins.exists_not_blank, harmless⟩

/-- Where the word for literals is made of letters, a content that begins with a word needs its
warning exactly when the word for literals does not begin that word or a conversion is unsafe.  Then
no line goes that ends in such a leaf or directly before it; otherwise the last warning there
goes. -/
theorem word_keeps_warning_iff (sweep : Sweep)
    (worded : ∀ g ∈ ofString sweep.rule.literalWord, g.isWord = true) :
    (∀ content word, LeafRule.BeginsWithWord content word →
      (sweep.rule.needsWarning content = true ↔
        ¬ ofString sweep.rule.literalWord <+: word ∨ LeafRule.HasUnsafeConversion content)) ∧
    ∀ t outcome, sweep.run t = .ok outcome →
      ∃ reading : Reading,
        (sweep.markers.Reads 0 t reading ∧
          ∀ other, sweep.markers.Reads 0 t other → other = reading) ∧
        ∃ deleted : Finset Nat,
          (∀ stop ∈ deleted, LineEndsAt reading.plain stop) ∧
          outcome.text = dropBlankLines (withoutLines deleted 0 reading.plain) ∧
          ∀ (region : Region reading.tokens) (word : Text), region.IsLeaf →
            LeafRule.BeginsWithWord region.content word →
            (¬ ofString sweep.rule.literalWord <+: word ∨
                LeafRule.HasUnsafeConversion region.content →
              ∀ stop, region.begins ≤ stop → stop < region.ends → stop ∉ deleted) ∧
            (ofString sweep.rule.literalWord <+: word →
              ¬ LeafRule.HasUnsafeConversion region.content → newline ∉ sweep.warningHead →
              ∀ stop, LastWarningIn sweep.warningHead reading.plain region.begins region.ends stop →
                stop ∈ deleted) := by
  refine ⟨fun content word => LeafRule.needsWarning_iff_of_word worded, ?_⟩
  intro t outcome swept
  obtain ⟨-, text, -⟩ := run_eq_ok_iff.mp swept
  have balanced := balanced_of_run_eq_ok swept
  obtain ⟨deleted, lineEnds, reach, exact_of_plain, left, -⟩ :=
    sweep.exists_lost (sweep.markers.pieces t).1 (sweep.markers.pieces t).2
  refine ⟨sweep.markers.reading 0 0 t,
    ⟨sweep.markers.reads_reading 0 0 t, fun other reads => reads.eq_reading_of_balanced balanced⟩,
    deleted, lineEnds, ?_, ?_⟩
  · rw [text, left]
    rfl
  · intro region word leaf begins
    have released_iff := releases_iff_of_word worded leaf begins
    constructor
    · intro needed stop above below member
      obtain ⟨other, released, otherAbove, otherBelow⟩ := reach stop member
      obtain ⟨literal, safe⟩ := released_iff.mp
        (released.of_reach leaf above below otherAbove otherBelow)
      rcases needed with foreign | harmful
      · exact foreign literal
      · exact safe harmful
    · intro literal safe plain stop found
      exact (exact_of_plain plain stop).mpr ⟨region, released_iff.mpr ⟨literal, safe⟩, found⟩

/-- A variable in a leaf keeps the warning before it. -/
theorem word_keeps_warning_of_variable :
    let sweep : Sweep := ⟨⟨"<", ">", by decide, by decide, by decide⟩, "#w", {}, 900⟩
    (∀ g ∈ ofString sweep.rule.literalWord, g.isWord = true) ∧
      LeafRule.BeginsWithWord " fmt" "fmt" ∧ sweep.rule.needsWarning " fmt" = true ∧
      sweep.run "#w\nf(< fmt>)" = .ok ⟨"#w\nf( fmt)", ⟨1, 1, 0⟩⟩ ∧
      ∃ deleted : Finset Nat, 2 ∉ deleted ∧
        ofString "#w\nf( fmt)" = dropBlankLines (withoutLines deleted 0 "#w\nf( fmt)") := by
  intro sweep
  have worded : ∀ g ∈ ofString sweep.rule.literalWord, g.isWord = true := by decide +kernel
  have begins : LeafRule.BeginsWithWord " fmt" "fmt" :=
    ⟨by decide, " ", "fmt", "", spans_iff.mpr (by decide), spans_iff.mpr (by decide +kernel)⟩
  have foreign : ¬ ofString sweep.rule.literalWord <+: ofString "fmt" := by decide
  have swept : sweep.run "#w\nf(< fmt>)" = .ok ⟨"#w\nf( fmt)", ⟨1, 1, 0⟩⟩ := by decide +kernel
  have computed : sweep.markers.reading 0 0 "#w\nf(< fmt>)" =
      ⟨[⟨"#w\nf(", .start, 5⟩, ⟨" fmt", .stop, 10⟩], ")"⟩ := by decide +kernel
  obtain ⟨judged, kept⟩ := word_keeps_warning_iff sweep worded
  obtain ⟨reading, ⟨-, unique⟩, deleted, -, text, safe⟩ := kept _ _ swept
  obtain rfl := unique _ (sweep.markers.reads_reading 0 0 _)
  rw [computed] at text safe
  let region : Region [⟨"#w\nf(", .start, 5⟩, ⟨" fmt", .stop, 10⟩] :=
    ⟨[], ⟨"#w\nf(", .start, 5⟩, [], ⟨" fmt", .stop, 10⟩, [], rfl, rfl, rfl, by decide⟩
  refine ⟨worded, begins, (judged _ _ begins).mpr (.inl foreign), swept, deleted, ?_, text⟩
  exact (safe region _ (Region.isLeaf_iff.mpr rfl) begins).1 (.inl foreign) 2
    (by decide) (by decide)

/-- A variable whose name only begins with the word for literals loses the warning before it. -/
theorem longer_word_loses_warning :
    LeafRule.BeginsWithWord "CFSTRFormat" "CFSTRFormat" ∧
      ofString "CFSTRFormat" ≠ ofString (standard 900).rule.literalWord ∧
      (standard 900).rule.needsWarning "CFSTRFormat" = false ∧
      (standard 900).run
      ("#warning 64BIT: Check formatting arguments\nf(/*<64BIT-FORMAT>*/CFSTRFormat" ++
          "/*</64BIT-FORMAT>*/)" : String) =
        .ok ⟨"f(CFSTRFormat)", ⟨1, 0, 1⟩⟩ := by
  refine ⟨⟨by decide, "", "CFSTRFormat", "", spans_iff.mpr (by decide),
    spans_iff.mpr (by decide +kernel)⟩, by decide, by decide, by decide +kernel⟩

end Sweep

end WarningSweep
