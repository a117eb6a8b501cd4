import Mathlib.Data.List.Flatten
import WarningSweep.Text.Encoding

/-!
# Decoding loses nothing

A decoded text encodes to the bytes it was read from, whatever they are.  Each of its glyphs can be
written: a byte that is carried along is no ASCII character.  A text whose glyphs are some of those
of a decoded text encodes to some of the bytes.  What was written as UTF-8 is read back as it is,
also where an ill-formed sequence would be refused.
-/

namespace WarningSweep

/-- The glyph can be written: a character, or a byte that is no character by itself. -/
def Glyph.IsWritable : Glyph → Prop
  | .char _ => True
  | .byte b => 0x80 ≤ b.toNat

theorem leadingChar?_eq_some {bytes : Bytes} {c : Char} (found : leadingChar? bytes = some c) :
    ∃ rest, bytes = String.utf8EncodeChar c ++ rest := by
  obtain ⟨rest, split⟩ := ByteArray.exists_of_utf8DecodeChar?_eq_some found
  have front : String.utf8EncodeChar c <+: bytes.take 4 := by
    refine ⟨rest.data.toList, ?_⟩
    have same := congrArg (fun array => array.data.toList) split
    simpa using same.symm
  obtain ⟨rest, split⟩ := front.trans (List.take_prefix 4 bytes)
  exact ⟨rest, split.symm⟩

theorem leadingChar?_of_ascii {b : UInt8} (ascii : b.toNat < 0x80) (bytes : Bytes) :
    leadingChar? (b :: bytes) = some (Char.ofUInt8 b) := by
  have value : (Char.ofUInt8 b).val = b.toUInt32 := rfl
  have size : (Char.ofUInt8 b).utf8Size = 1 := by
    rw [Char.utf8Size_eq_one_iff, UInt32.le_iff_toNat_le, value, UInt8.toNat_toUInt32]
    simp only [UInt32.reduceToNat]
    omega
  have single : String.utf8EncodeChar (Char.ofUInt8 b) = [b] := by
    rw [String.utf8EncodeChar_eq_singleton size, value]
    simp
  have decoded := @ByteArray.utf8DecodeChar?_utf8EncodeChar_append (bytes.take 3).toByteArray
    (Char.ofUInt8 b)
  rw [single, ← List.toByteArray_append] at decoded
  exact decoded

theorem leadingChar?_utf8EncodeChar (c : Char) (bytes : Bytes) :
    leadingChar? (String.utf8EncodeChar c ++ bytes) = some c := by
  have size : (String.utf8EncodeChar c).length ≤ 4 := by
    rw [String.length_utf8EncodeChar]
    exact c.utf8Size_le_four
  rw [leadingChar?, List.take_append, List.take_of_length_le size, List.toByteArray_append]
  exact ByteArray.utf8DecodeChar?_utf8EncodeChar_append

theorem decodeUntil_append (start : Nat) (front bytes : Bytes) :
    decodeUntil start front.length (front ++ bytes) =
      decodeUntil (start + front.length) 0 bytes := by
  induction front generalizing start with
  | nil => rfl
  | cons b front inductionHypothesis =>
      rw [List.length_cons, List.cons_append, decodeUntil, inductionHypothesis, Nat.add_right_comm,
        Nat.add_assoc]

theorem decodeUntil_utf8EncodeChar (start : Nat) (c : Char) (bytes : Bytes) :
    decodeUntil start 0 (String.utf8EncodeChar c ++ bytes) =
      (c :: (decodeUntil (start + c.utf8Size) 0 bytes).1,
        (decodeUntil (start + c.utf8Size) 0 bytes).2) := by
  have length := String.length_utf8EncodeChar c
  have found := leadingChar?_utf8EncodeChar c bytes
  generalize String.utf8EncodeChar c = encoded at length found
  cases encoded with
  | nil => exact absurd length (Nat.ne_of_lt c.utf8Size_pos)
  | cons b more =>
      have rest : c.utf8Size - 1 = more.length := by
        rw [← length, List.length_cons, Nat.add_sub_cancel]
      have place : start + 1 + more.length = start + c.utf8Size := by
        rw [← length, List.length_cons]
        omega
      rw [List.cons_append] at found ⊢
      rw [decodeUntil, found]
      simp only [rest, decodeUntil_append, place]

theorem decodeUntil_flatMap_utf8EncodeChar (start : Nat) (cs : List Char) :
    decodeUntil start 0 (cs.flatMap String.utf8EncodeChar) = (cs, none) := by
  induction cs generalizing start with
  | nil => rfl
  | cons c rest inductionHypothesis =>
      rw [List.flatMap_cons, decodeUntil_utf8EncodeChar, inductionHypothesis]

/-- A text that was written is read back as it is. -/
@[simp]
theorem decodeStrict_encodeString (s : String) : decodeStrict (encodeString s) = .ok s := by
  rw [decodeStrict, encodeString, decodeUntil_flatMap_utf8EncodeChar]
  simp

theorem unifyLineEnds_of_not_mem {cs : List Char} (plain : '\r' ∉ cs) : unifyLineEnds cs = cs := by
  fun_induction unifyLineEnds cs with
  | case1 => rfl
  | case2 rest => exact absurd List.mem_cons_self plain
  | case3 rest => exact absurd List.mem_cons_self plain
  | case4 c rest _ _ inductionHypothesis =>
      rw [inductionHypothesis fun member => plain (List.mem_cons_of_mem c member)]

namespace Text

theorem encode_decodeFrom (skip : Nat) (bytes : Bytes) :
    Text.encode (decodeFrom skip bytes) = bytes.drop skip := by
  fun_induction decodeFrom skip bytes with
  | case1 skip => simp [encode]
  | case2 skip b bytes inductionHypothesis => simpa using inductionHypothesis
  | case3 b bytes c found inductionHypothesis =>
      obtain ⟨rest, split⟩ := leadingChar?_eq_some found
      have size := c.utf8Size_pos
      have after : bytes.drop (c.utf8Size - 1) = rest := by
        have cut := congrArg (List.drop c.utf8Size) split
        rw [← String.length_utf8EncodeChar, List.drop_left, String.length_utf8EncodeChar,
          ← Nat.sub_add_cancel size, List.drop_succ_cons] at cut
        exact cut
      rw [after] at inductionHypothesis
      simp only [encode, List.flatMap_cons, Glyph.encode] at inductionHypothesis ⊢
      rw [inductionHypothesis, List.drop_zero, split]
  | case4 b bytes missing inductionHypothesis =>
      simpa [encode, Glyph.encode] using inductionHypothesis

/-- Encoding undoes decoding, also where the bytes are no well-formed UTF-8. -/
@[simp]
theorem encode_decode (bytes : Bytes) : (decode bytes).encode = bytes :=
  encode_decodeFrom 0 bytes

theorem isWritable_of_mem_decodeFrom (skip : Nat) (bytes : Bytes) :
    ∀ g ∈ decodeFrom skip bytes, g.IsWritable := by
  fun_induction decodeFrom skip bytes with
  | case1 skip => simp
  | case2 skip b bytes inductionHypothesis => exact inductionHypothesis
  | case3 b bytes c found inductionHypothesis =>
      rintro g (_ | ⟨_, later⟩)
      · trivial
      · exact inductionHypothesis g later
  | case4 b bytes missing inductionHypothesis =>
      rintro g (_ | ⟨_, later⟩)
      · apply Nat.le_of_not_lt
        intro ascii
        rw [leadingChar?_of_ascii ascii] at missing
        cases missing
      · exact inductionHypothesis g later

theorem isWritable_of_mem_decode {bytes : Bytes} {g : Glyph} (member : g ∈ decode bytes) :
    g.IsWritable :=
  isWritable_of_mem_decodeFrom 0 bytes g member

theorem encode_sublist {first second : Text} (within : first.Sublist second) :
    first.encode.Sublist second.encode :=
  within.flatMap _

end Text

end WarningSweep
