import WarningSweep.Marker.Basic

/-!
# Reading a text by its markers

A reading cuts a text at the leftmost occurrence of either marker, again and again, each time after
the marker before.  `Reads` says this without any search; `scan` computes such a reading, and it is
the only one when neither marker begins with the other.
-/

namespace WarningSweep

/-- A marker of a text, with the plain text since the marker before it and its offset. -/
structure Token where
  before : Text
  mark : Mark
  offset : Nat
  deriving DecidableEq, Repr

/-- The markers of a text and the plain text after the last of them. -/
structure Reading where
  tokens : List Token
  tail : Text
  deriving DecidableEq, Repr

def Token.plain (tokens : List Token) : Text := tokens.flatMap Token.before

@[simp]
theorem Token.plain_nil : Token.plain [] = [] := rfl

@[simp]
theorem Token.plain_cons (token : Token) (tokens : List Token) :
    Token.plain (token :: tokens) = token.before ++ Token.plain tokens := rfl

@[simp]
theorem Token.plain_append (first second : List Token) :
    Token.plain (first ++ second) = Token.plain first ++ Token.plain second :=
  List.flatMap_append

def Reading.plain (reading : Reading) : Text := Token.plain reading.tokens ++ reading.tail

def Piece.token (piece : Piece) : Token := ⟨piece.before, piece.mark, piece.offset⟩

@[simp]
theorem Piece.token_mark (piece : Piece) : piece.token.mark = piece.mark := rfl

@[simp]
theorem Piece.token_before (piece : Piece) : piece.token.before = piece.before := rfl

@[simp]
theorem Piece.token_offset (piece : Piece) : piece.token.offset = piece.offset := rfl

def Piece.past (markers : Markers) (piece : Piece) : Nat :=
  piece.offset + (markers.ofMark piece.mark).length

theorem Piece.map_mark_token (pieces : List Piece) :
    (pieces.map Piece.token).map Token.mark = pieces.map Piece.mark := by
  rw [List.map_map]
  rfl

namespace Markers

/-- How a text that stands at `offset` is cut at its markers. -/
inductive Reads (markers : Markers) : (offset : Nat) → Text → Reading → Prop
  | tail {offset : Nat} {t : Text}
      (unmarked : ∀ mark, ¬ markers.ofMark mark <:+: t) :
      Reads markers offset t ⟨[], t⟩
  | token {offset : Nat} {before rest : Text} {mark : Mark} {reading : Reading}
      (leftmost : ∀ other, ∀ place < before.length,
        ¬ markers.ofMark other <+: (before ++ markers.ofMark mark ++ rest).drop place)
      (remaining : Reads markers
        (offset + before.length + (markers.ofMark mark).length) rest reading) :
      Reads markers offset (before ++ markers.ofMark mark ++ rest)
        ⟨⟨before, mark, offset + before.length⟩ :: reading.tokens, reading.tail⟩

/-- The markers can be told apart wherever they stand. -/
structure PrefixFree (markers : Markers) : Prop where
  start_not_before_stop : ¬ markers.start <+: markers.stop
  stop_not_before_start : ¬ markers.stop <+: markers.start

variable {markers : Markers}

theorem at?_eq_none_iff {inside : Bool} {t : Text} :
    markers.at? inside t = none ↔ ∀ mark, ¬ markers.ofMark mark <+: t := by
  have split : markers.at? inside t = none ↔
      Text.after? markers.start t = none ∧ Text.after? markers.stop t = none := by
    cases inside <;> simp [at?, and_comm]
  rw [split, Text.after?_eq_none_iff, Text.after?_eq_none_iff]
  constructor
  · rintro ⟨noStart, noStop⟩ mark
    cases mark with
    | start => exact noStart
    | stop => exact noStop
  · intro missing
    exact ⟨missing .start, missing .stop⟩

theorem unmarked_of_next?_eq_none {inside : Bool} {t : Text}
    (missing : markers.next? inside t = none) (mark : Mark) :
    ¬ markers.ofMark mark <:+: t := by
  induction t with
  | nil =>
      rw [List.infix_nil]
      exact markers.ofMark_ne_nil mark
  | cons g t inductionHypothesis =>
      unfold next? at missing
      split at missing
      next => simp at missing
      next notHere =>
        rw [Option.map_eq_none_iff] at missing
        rw [List.infix_cons_iff]
        rintro (here | later)
        · exact at?_eq_none_iff.mp notHere mark here
        · exact inductionHypothesis missing later

theorem leftmost_of_next?_eq_some {inside : Bool} {t before rest : Text} {mark : Mark}
    (found : markers.next? inside t = some (before, mark, rest))
    (other : Mark) {place : Nat} (earlier : place < before.length) :
    ¬ markers.ofMark other <+: t.drop place := by
  induction t generalizing before place with
  | nil => simp [next?] at found
  | cons g t inductionHypothesis =>
      unfold next? at found
      split at found
      next =>
        simp only [Option.some.injEq, Prod.mk.injEq] at found
        obtain ⟨rfl, -⟩ := found
        simp at earlier
      next notHere =>
        simp only [Option.map_eq_some_iff, Prod.mk.injEq] at found
        obtain ⟨⟨front, back⟩, later, rfl, rfl⟩ := found
        cases place with
        | zero => exact at?_eq_none_iff.mp notHere other
        | succ place =>
            exact inductionHypothesis later (Nat.lt_of_succ_lt_succ earlier)

def reading (markers : Markers) (depth offset : Nat) (t : Text) : Reading :=
  ⟨(markers.scan depth offset t).1.map Piece.token, (markers.scan depth offset t).2⟩

theorem scan_of_next?_eq_none {depth offset : Nat} {t : Text}
    (missing : markers.next? (depth ≠ 0) t = none) :
    markers.scan depth offset t = ([], t) := by
  rw [scan]
  split
  next => rfl
  next found =>
    rw [missing] at found
    cases found

theorem scan_of_unmarked {depth offset : Nat} {t : Text}
    (unmarked : ∀ mark, ¬ markers.ofMark mark <:+: t) :
    markers.scan depth offset t = ([], t) := by
  apply scan_of_next?_eq_none
  cases found : markers.next? (depth ≠ 0) t with
  | none => rfl
  | some parts =>
      obtain ⟨before, mark, rest⟩ := parts
      exact absurd ⟨before, rest, (eq_of_next?_eq_some found).symm⟩ (unmarked mark)

theorem scan_of_next?_eq_some {depth offset : Nat} {t before rest : Text} {mark : Mark}
    (found : markers.next? (depth ≠ 0) t = some (before, mark, rest)) :
    markers.scan depth offset t =
      (⟨before, mark, offset + before.length, Text.occurs markers.stop t⟩ ::
        (markers.scan (mark.depthAfter depth)
          (offset + before.length + (markers.ofMark mark).length) rest).1,
        (markers.scan (mark.depthAfter depth)
          (offset + before.length + (markers.ofMark mark).length) rest).2) := by
  rw [scan]
  split
  next missing =>
    rw [missing] at found
    cases found
  next same =>
    rw [found] at same
    cases same
    rfl

theorem bounds_of_mem_scan {depth offset : Nat} {t : Text} {piece : Piece}
    (member : piece ∈ (markers.scan depth offset t).1) :
    offset + piece.before.length ≤ piece.offset ∧ piece.past markers ≤ offset + t.length := by
  induction depth, offset, t using Markers.scan.induct markers with
  | case1 depth offset t missing =>
      rw [scan_of_next?_eq_none missing] at member
      simp at member
  | case2 depth offset t before mark rest found _ _ _ _ _ inductionHypothesis =>
      have size := congrArg List.length (eq_of_next?_eq_some found)
      rw [List.length_append, List.length_append] at size
      rw [scan_of_next?_eq_some found] at member
      rcases List.mem_cons.mp member with rfl | later
      · simp only [Piece.past]
        omega
      · have bounds : offset + before.length + (markers.ofMark mark).length + piece.before.length ≤
              piece.offset ∧ piece.past markers ≤
              offset + before.length + (markers.ofMark mark).length + rest.length :=
          inductionHypothesis later
        omega

theorem reading_of_next?_eq_none {depth offset : Nat} {t : Text}
    (missing : markers.next? (depth ≠ 0) t = none) :
    markers.reading depth offset t = ⟨[], t⟩ := by
  rw [reading, scan_of_next?_eq_none missing, List.map_nil]

theorem reading_of_next?_eq_some {depth offset : Nat} {t before rest : Text} {mark : Mark}
    (found : markers.next? (depth ≠ 0) t = some (before, mark, rest)) :
    markers.reading depth offset t =
      ⟨⟨before, mark, offset + before.length⟩ ::
        (markers.reading (mark.depthAfter depth)
          (offset + before.length + (markers.ofMark mark).length) rest).tokens,
        (markers.reading (mark.depthAfter depth)
          (offset + before.length + (markers.ofMark mark).length) rest).tail⟩ := by
  rw [reading, scan_of_next?_eq_some found]
  rfl

theorem reads_reading (markers : Markers) (depth offset : Nat) (t : Text) :
    markers.Reads offset t (markers.reading depth offset t) := by
  induction depth, offset, t using Markers.scan.induct markers with
  | case1 depth offset t missing =>
      rw [reading_of_next?_eq_none missing]
      exact .tail (unmarked_of_next?_eq_none missing)
  | case2 depth offset t before mark rest found _ _ _ _ _ inductionHypothesis =>
      have cut := eq_of_next?_eq_some found
      have leftmost : ∀ other, ∀ place < before.length,
          ¬ markers.ofMark other <+: (before ++ markers.ofMark mark ++ rest).drop place := by
        intro other place earlier
        rw [← cut]
        exact leftmost_of_next?_eq_some found other earlier
      rw [reading_of_next?_eq_some found, cut]
      exact .token leftmost inductionHypothesis

theorem Reads.cases {offset : Nat} {t : Text} {reading : Reading}
    (reads : markers.Reads offset t reading) :
    ((∀ mark, ¬ markers.ofMark mark <:+: t) ∧ reading = ⟨[], t⟩) ∨
      ∃ before mark rest, ∃ later : Reading,
        t = before ++ markers.ofMark mark ++ rest ∧
        (∀ other, ∀ place < before.length, ¬ markers.ofMark other <+: t.drop place) ∧
        markers.Reads (offset + before.length + (markers.ofMark mark).length) rest later ∧
        reading = ⟨⟨before, mark, offset + before.length⟩ :: later.tokens, later.tail⟩ := by
  cases reads with
  | tail unmarked => exact .inl ⟨unmarked, rfl⟩
  | token leftmost remaining => exact .inr ⟨_, _, _, _, rfl, leftmost, remaining, rfl⟩

theorem Reads.length_plain_add_le {offset : Nat} {t : Text} {reading : Reading}
    (reads : markers.Reads offset t reading) :
    reading.plain.length + reading.tokens.length ≤ t.length := by
  induction reads with
  | tail => simp [Reading.plain]
  | @token offset before rest mark reading leftmost remaining inductionHypothesis =>
      have nonempty := List.length_pos_iff.mpr (markers.ofMark_ne_nil mark)
      simp only [Reading.plain, Token.plain_cons, List.length_append, List.length_cons]
        at inductionHypothesis ⊢
      omega

/-- No marker stands before the leftmost one, so two leftmost markers stand at one place. -/
theorem length_le_of_leftmost {t before before' rest : Text} {mark : Mark}
    (cut : t = before ++ markers.ofMark mark ++ rest)
    (leftmost : ∀ other, ∀ place < before'.length, ¬ markers.ofMark other <+: t.drop place) :
    before'.length ≤ before.length := by
  apply Nat.le_of_not_lt
  intro shorter
  apply leftmost mark before.length shorter
  rw [cut, List.append_assoc, List.drop_left]
  exact List.prefix_append _ _

theorem PrefixFree.eq_of_prefix (free : markers.PrefixFree) {mark mark' : Mark} {t : Text}
    (first : markers.ofMark mark <+: t) (second : markers.ofMark mark' <+: t) :
    mark = mark' := by
  have compared := List.prefix_or_prefix_of_prefix first second
  cases mark <;> cases mark'
  · rfl
  · exact absurd compared (not_or.mpr ⟨free.start_not_before_stop, free.stop_not_before_start⟩)
  · exact absurd compared (not_or.mpr ⟨free.stop_not_before_start, free.start_not_before_stop⟩)
  · rfl

theorem Reads.eq_of_prefixFree (free : markers.PrefixFree) {offset : Nat} {t : Text}
    {first second : Reading} (firstReads : markers.Reads offset t first)
    (secondReads : markers.Reads offset t second) : second = first := by
  induction firstReads generalizing second with
  | tail unmarked =>
      rcases secondReads.cases with ⟨-, same⟩ | ⟨before, mark, rest, later, cut, -⟩
      · exact same
      · exact absurd ⟨before, rest, cut.symm⟩ (unmarked mark)
  | @token offset before rest mark reading leftmost remaining inductionHypothesis =>
      rcases secondReads.cases with ⟨unmarked, -⟩ |
        ⟨before', mark', rest', later, cut, leftmost', remaining', rfl⟩
      · exact absurd ⟨before, rest, rfl⟩ (unmarked mark)
      · have sameLength : before.length = before'.length :=
          Nat.le_antisymm (length_le_of_leftmost cut leftmost)
            (length_le_of_leftmost rfl leftmost')
        simp only [List.append_assoc] at cut
        obtain ⟨rfl, after⟩ := List.append_inj cut sameLength
        obtain rfl : mark = mark' :=
          free.eq_of_prefix (List.prefix_append _ rest) (after ▸ List.prefix_append _ rest')
        obtain rfl := List.append_cancel_left after
        rw [inductionHypothesis remaining']

theorem Reads.unmarked_of_tokens_eq_nil {offset : Nat} {t : Text} {reading : Reading}
    (reads : markers.Reads offset t reading) (none : reading.tokens = []) (mark : Mark) :
    ¬ markers.ofMark mark <:+: t := by
  rcases reads.cases with ⟨unmarked, -⟩ | ⟨before, first, rest, later, -, -, -, rfl⟩
  · exact unmarked mark
  · cases none

/-- A text without markers is all tail, however its markers compare. -/
theorem Reads.eq_of_unmarked {offset : Nat} {t : Text} {reading : Reading}
    (reads : markers.Reads offset t reading)
    (unmarked : ∀ mark, ¬ markers.ofMark mark <:+: t) : reading = ⟨[], t⟩ := by
  rcases reads.cases with ⟨-, same⟩ | ⟨before, mark, rest, later, cut, -⟩
  · exact same
  · exact absurd ⟨before, rest, cut.symm⟩ (unmarked mark)

end Markers

end WarningSweep
