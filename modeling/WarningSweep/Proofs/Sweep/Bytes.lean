import WarningSweep.Proofs.Files.Atomicity
import WarningSweep.Proofs.Sweep.FixedPoint
import WarningSweep.Proofs.Text.Encoding

/-!
# A sweep only deletes bytes

Any bytes can be decoded, and encoding gives them back.  The outcome of a sweep holds some of the
glyphs that were decoded, in order, so each of them can be written, and the bytes that are written
are some of those that were read.
-/

namespace WarningSweep

theorem Markers.Reads.plain_sublist {markers : Markers} {offset : Nat} {t : Text}
    {reading : Reading} (reads : markers.Reads offset t reading) : reading.plain.Sublist t := by
  induction reads with
  | tail unmarked => exact List.Sublist.refl _
  | token leftmost remaining inductionHypothesis =>
      simp only [Reading.plain, Token.plain_cons, List.append_assoc] at inductionHypothesis ⊢
      apply List.Sublist.append (List.Sublist.refl _)
      exact inductionHypothesis.trans (List.sublist_append_right _ _)

namespace Sweep

open scoped List

theorem text_sublist_of_run {sweep : Sweep} {t : Text} {outcome : Outcome}
    (swept : sweep.run t = .ok outcome) : outcome.text.Sublist t := by
  obtain ⟨-, text, -⟩ := run_eq_ok_iff.mp swept
  rw [text]
  calc dropBlankLines (sweep.leftover (sweep.markers.pieces t).1 (sweep.markers.pieces t).2)
    _ <+ sweep.leftover (sweep.markers.pieces t).1 (sweep.markers.pieces t).2 :=
      (dropBlankLines_suffix _).sublist
    _ <+ (sweep.markers.reading 0 0 t).plain := sweep.leftover_sublist _ _
    _ <+ t := (sweep.markers.reads_reading 0 0 t).plain_sublist

/-- Decoding takes any bytes and loses none of them: a file that is decoded and written elsewhere is
copied.  Whatever a sweep leaves of the decoded text can be written, as some of the bytes in their
order. -/
theorem bytes_only_deleted (bytes : Bytes) :
    (Text.decode bytes).encode = bytes ∧
    (∀ g ∈ Text.decode bytes, g.IsWritable) ∧
    (∀ (stamps : List Stamp) (files after : Files) (source target : String) (content : Bytes),
      files.read source = .ok content → content = bytes →
      Files.replace stamps target (Text.decode content).encode none files = (.ok (), after) →
      ∃ location mode, files.replacePlace (Path.ofString target) = .ok location ∧
        after.tree.get? location = some (.file bytes mode)) ∧
    ∀ (sweep : Sweep) (outcome : Outcome), sweep.run (Text.decode bytes) = .ok outcome →
      (∀ g ∈ outcome.text, g.IsWritable) ∧ outcome.text.encode.Sublist bytes := by
  refine ⟨Text.encode_decode bytes, fun g => Text.isWritable_of_mem_decode, ?_, ?_⟩
  · rintro stamps files after source target content - rfl written
    rw [Text.encode_decode] at written
    rcases Files.replace_cases stamps target content none files with ⟨_, failed⟩ |
      ⟨location, _, place, done, present, -⟩
    · rw [failed] at written
      cases written
    · rw [done] at written
      cases written
      exact ⟨location, _, place, present⟩
  · intro sweep outcome swept
    have within := text_sublist_of_run swept
    refine ⟨fun g member => Text.isWritable_of_mem_decode (within.subset member), ?_⟩
    have shorter := Text.encode_sublist within
    rwa [Text.encode_decode] at shorter

/-- The two bytes beside the region are no characters, but together they would be one. -/
theorem bytes_only_deleted_joining :
    let sweep : Sweep := ⟨⟨"<", ">", by decide, by decide, by decide⟩, "#w", {}, 900⟩
    let files : Files := { tree := ⟨[(["a"], .file [0xC3, 60, 62, 0xA9] 0o644)]⟩ }
    let stamps : List Stamp := [⟨"0", rfl⟩]
    ∃ after location mode, files.read "a" = .ok [0xC3, 60, 62, 0xA9] ∧
      Files.replace stamps "b" (Text.decode [0xC3, 60, 62, 0xA9]).encode none files =
        (.ok (), after) ∧
      files.replacePlace (Path.ofString "b") = .ok location ∧
      after.tree.get? location = some (.file [0xC3, 60, 62, 0xA9] mode) ∧
      sweep.run (Text.decode [0xC3, 60, 62, 0xA9]) = .ok ⟨[.byte 0xC3, .byte 0xA9], ⟨1, 1, 0⟩⟩ ∧
      Text.encode [.byte 0xC3, .byte 0xA9] <+ [0xC3, 60, 62, 0xA9] := by
  intro sweep files stamps
  have found : files.read "a" = .ok [0xC3, 60, 62, 0xA9] := by
    rw [Files.read, files.find_of_entryName (by decide)]
    rfl
  have beside : files.temporaryPlace (Path.ofString "b") ⟨"0", rfl⟩ =
      ("//.b.0.tmp", .ok (.vacant [".b.0.tmp"])) := by
    rw [Files.temporaryPlace, admitPath_eq]
    decide +kernel
  have free : files.freePlace (Path.ofString "b") stamps = .ok ("//.b.0.tmp", [".b.0.tmp"]) := by
    rw [Files.freePlace, beside]
  have admitted : admitPath (Path.ofString "b").text = .ok () :=
    admitPath_eq_ok_iff.mpr (by decide +kernel)
  have vacant : files.replacePlace (Path.ofString "b") = .ok ["b"] := by decide +kernel
  have written := (Files.replaceAmid_succeeds_iff files stamps none "b"
    (Text.decode [0xC3, 60, 62, 0xA9]).encode).mpr ⟨_, ⟨_, free⟩, admitted, vacant, by simp⟩
  have swept : sweep.run (Text.decode [0xC3, 60, 62, 0xA9]) =
      .ok ⟨[.byte 0xC3, .byte 0xA9], ⟨1, 1, 0⟩⟩ := by decide +kernel
  obtain ⟨-, -, copies, deletes⟩ := bytes_only_deleted [0xC3, 60, 62, 0xA9]
  have written : Files.replace stamps "b" (Text.decode [0xC3, 60, 62, 0xA9]).encode none files =
      (.ok (), _) := Prod.ext written rfl
  obtain ⟨location, mode, place, present⟩ := copies stamps files _ "a" "b" _ found rfl written
  exact ⟨_, location, mode, found, written, place, present, swept, (deletes sweep _ swept).2⟩

end Sweep

end WarningSweep
