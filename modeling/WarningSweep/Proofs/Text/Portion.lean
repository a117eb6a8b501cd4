import WarningSweep.Proofs.Text.Encoding
import WarningSweep.Text.Portion

/-!
# Portions of a file of ASCII characters

Where every character is one byte, no block cuts a character, and a file without carriage returns is
read as it is.  Its portions follow each other without gaps, and none of them is empty.
-/

namespace WarningSweep

/-- A character of one byte that is no part of a longer line end. -/
structure IsSimple (c : Char) : Prop where
  ascii : c.toNat < 0x80
  ne_return : c ≠ '\r'

theorem utf8EncodeChar_of_ascii {c : Char} (ascii : c.toNat < 0x80) :
    String.utf8EncodeChar c = [c.val.toUInt8] := by
  apply String.utf8EncodeChar_eq_singleton
  rw [Char.utf8Size_eq_one_iff, UInt32.le_iff_toNat_le]
  exact Nat.le_of_lt_succ ascii

def asciiBytes (cs : List Char) : Bytes := cs.map fun c => c.val.toUInt8

theorem flatMap_utf8EncodeChar_of_simple {cs : List Char} (simple : ∀ c ∈ cs, IsSimple c) :
    cs.flatMap String.utf8EncodeChar = asciiBytes cs := by
  induction cs with
  | nil => rfl
  | cons c rest inductionHypothesis =>
      rw [List.flatMap_cons, utf8EncodeChar_of_ascii (simple c List.mem_cons_self).ascii,
        inductionHypothesis fun d member => simple d (List.mem_cons_of_mem _ member)]
      rfl

theorem encodeString_of_simple {text : String} (simple : ∀ c ∈ text.toList, IsSimple c) :
    encodeString text = asciiBytes text.toList :=
  flatMap_utf8EncodeChar_of_simple simple

theorem decodeUntil_asciiBytes {cs : List Char} (simple : ∀ c ∈ cs, IsSimple c) (start : Nat) :
    decodeUntil start 0 (asciiBytes cs) = (cs, none) := by
  rw [← flatMap_utf8EncodeChar_of_simple simple, decodeUntil_flatMap_utf8EncodeChar]

theorem unifyLineEnds_of_simple {cs : List Char} (simple : ∀ c ∈ cs, IsSimple c) :
    unifyLineEnds cs = cs :=
  unifyLineEnds_of_not_mem fun member => (simple '\r' member).ne_return rfl

namespace PartRead

structure Holds (file : PartRead) (cs : List Char) : Prop where
  simple : ∀ c ∈ cs, IsSimple c
  left_eq : file.left = []
  held_eq : file.held = false
  split : ∃ later, file.rest = asciiBytes later ∧ cs = file.ready ++ later

variable {file : PartRead} {cs : List Char}

theorem wanted_pos (file : PartRead) (count : Nat) : 0 < file.wanted count :=
  Nat.lt_of_lt_of_le (by decide : 0 < blockSize) (Nat.le_max_left _ _)

/-- A block keeps what the file holds; it ends the file exactly when there are no bytes left. -/
theorem nextBlock_of_holds (holds : file.Holds cs) (count : Nat) :
    ∃ next, file.nextBlock count = .ok (next, file.rest.isEmpty) ∧ next.Holds cs ∧
      (file.rest = [] → next.ready = file.ready) ∧
      (file.rest ≠ [] → next.rest.length < file.rest.length) := by
  obtain ⟨later, rest_eq, rfl⟩ := holds.split
  have simple : ∀ c ∈ later, IsSimple c := fun c member =>
    holds.simple c (List.mem_append_right _ member)
  have block : file.rest.take (file.wanted count) =
      asciiBytes (later.take (file.wanted count)) := by
    rw [rest_eq, asciiBytes, asciiBytes, List.map_take]
  have simpleBlock : ∀ c ∈ later.take (file.wanted count), IsSimple c := fun c member =>
    simple c (List.mem_of_mem_take member)
  have noReturn : (later.take (file.wanted count)).getLast? ≠ some '\r' := fun last =>
    (simpleBlock _ (List.mem_of_getLast? last)).ne_return rfl
  have length : (asciiBytes (later.take (file.wanted count))).length =
      min (file.wanted count) later.length := by
    simp [asciiBytes]
  have atEnd : (later.take (file.wanted count)).isEmpty = later.isEmpty := by
    have positive := file.wanted_pos count
    cases later with
    | nil => simp
    | cons c more =>
        obtain ⟨wanted, same⟩ := Nat.exists_eq_succ_of_ne_zero (Nat.pos_iff_ne_zero.mp positive)
        simp [same]
  refine ⟨⟨file.rest.drop (min (file.wanted count) later.length), [], false,
    file.ready ++ later.take (file.wanted count),
    (min (file.wanted count) later.length, (later.take (file.wanted count)).length)⟩, ?_,
    ⟨holds.simple, rfl, rfl,
      later.drop (file.wanted count), ?_, ?_⟩, ?_, ?_⟩
  · simp only [nextBlock, holds.left_eq, holds.held_eq, block, List.nil_append,
      decodeUntil_asciiBytes simpleBlock, Bool.false_eq_true, if_false, bind, Except.bind, pure,
      Except.pure, decide_eq_false noReturn, Bool.and_false,
      unifyLineEnds_of_simple simpleBlock, length]
    have empty : (asciiBytes (later.take (file.wanted count))).isEmpty = later.isEmpty := by
      rw [asciiBytes, List.isEmpty_map, atEnd]
    rw [empty, atEnd, Bool.and_self, rest_eq, asciiBytes, List.isEmpty_map]
  · rw [rest_eq, asciiBytes, asciiBytes, ← List.map_drop]
    rcases Nat.le_total later.length (file.wanted count) with short | long
    · rw [Nat.min_eq_right short, List.drop_length, List.drop_of_length_le short]
    · rw [Nat.min_eq_left long]
  · rw [List.append_assoc, List.take_append_drop]
  · intro none
    rw [rest_eq, asciiBytes, List.map_eq_nil_iff] at none
    simp [none]
  · intro some
    have positive := file.wanted_pos count
    have nonempty : 0 < file.rest.length := List.length_pos_iff.mpr some
    have same : file.rest.length = later.length := by simp [rest_eq, asciiBytes]
    simp only [List.length_drop]
    omega

theorem take_of_holds {count steps : Nat} (holds : file.Holds cs)
    (enough : file.rest.length < steps) :
    ∃ next, take count steps file = .ok (cs.take count, next) ∧ next.Holds (cs.drop count) := by
  have given {file : PartRead} {cs : List Char} (holds : file.Holds cs)
      (ready : count ≤ file.ready.length) :
      file.ready.take count = cs.take count ∧
        { file with ready := file.ready.drop count }.Holds (cs.drop count) := by
    obtain ⟨later, rest_eq, rfl⟩ := holds.split
    refine ⟨(List.take_append_of_le_length ready).symm,
      fun c member => holds.simple c (List.mem_of_mem_drop member), holds.left_eq, holds.held_eq,
      later, rest_eq, ?_⟩
    exact List.drop_append_of_le_length ready
  induction steps generalizing file with
  | zero => exact absurd enough (Nat.not_lt_zero _)
  | succ steps inductionHypothesis =>
      rw [take]
      split
      next ready =>
        obtain ⟨front, kept⟩ := given holds ready
        exact ⟨_, by rw [front], kept⟩
      next short =>
        obtain ⟨next, block, kept, ended, shorter⟩ :=
          nextBlock_of_holds holds (count - file.ready.length)
        simp only [block, bind, Except.bind]
        by_cases last : file.rest = []
        · obtain ⟨later, rest_eq, rfl⟩ := holds.split
          rw [last] at rest_eq
          have nothing : later = [] := List.map_eq_nil_iff.mp rest_eq.symm
          subst nothing
          rw [List.append_nil] at kept ⊢
          have all : file.ready.length ≤ count := Nat.le_of_lt (Nat.lt_of_not_le short)
          simp only [last, List.isEmpty_nil, if_true, pure, Except.pure]
          refine ⟨_, by rw [ended last, List.take_of_length_le all], ?_⟩
          obtain ⟨more, more_eq, same⟩ := kept.split
          rw [ended last, List.self_eq_append_right] at same
          subst same
          rw [List.drop_of_length_le all]
          exact ⟨by simp, kept.left_eq, kept.held_eq, [], more_eq, rfl⟩
        · simp only [List.isEmpty_iff, last, if_false]
          exact inductionHypothesis kept (by have := shorter last; omega)

theorem portions_of_holds {count steps : Nat} (positive : 0 < count) (holds : file.Holds cs)
    (enough : cs.length < steps) :
    ∃ parts, portions count steps file = (parts, none) ∧ parts.flatten = cs := by
  induction steps generalizing file cs with
  | zero => exact absurd enough (Nat.not_lt_zero _)
  | succ steps inductionHypothesis =>
      obtain ⟨next, taken, kept⟩ := @take_of_holds file cs count (file.rest.length + 3)
        holds (by omega)
      rw [portions, taken]
      cases cs with
      | nil => exact ⟨[], by simp, rfl⟩
      | cons c rest =>
          have front : (c :: rest).take count ≠ [] := by
            simp [List.take_eq_nil_iff, Nat.pos_iff_ne_zero.mp positive]
          have fewer : ((c :: rest).drop count).length < steps := by
            simp only [List.length_drop, List.length_cons] at enough ⊢
            omega
          obtain ⟨parts, read, whole⟩ := inductionHypothesis kept fewer
          refine ⟨(c :: rest).take count :: parts, ?_, ?_⟩
          · cases first : (c :: rest).take count with
            | nil => exact absurd first front
            | cons d more => simp only [read]
          · rw [List.flatten_cons, whole, List.take_append_drop]

end PartRead

theorem portionsOf_of_simple {count : Nat} (positive : 0 < count) {text : String}
    (simple : ∀ c ∈ text.toList, IsSimple c) :
    ∃ parts, portionsOf count (encodeString text) = (parts, none) ∧
      parts.flatten = text.toList := by
  have length : (encodeString text).length = text.toList.length := by
    rw [encodeString_of_simple simple, asciiBytes, List.length_map]
  apply PartRead.portions_of_holds positive
  · exact ⟨simple, rfl, rfl, text.toList, encodeString_of_simple simple, rfl⟩
  · omega

end WarningSweep
