import Mathlib.Data.List.Induction
import WarningSweep.Proofs.Sweep.Meaning
import WarningSweep.Proofs.Text.Count

/-!
# What any sweep loses

Whatever the warning head is, also one that spans lines, a sweep loses whole lines of the plain text
and nothing else before the blank lines that start the outcome.  Each of them ends in the content of
a leaf that loses its warning or directly before that leaf, and the summary counts them.
-/

namespace WarningSweep

open Text

namespace Buffer

/-- The buffer holds the lines `done` without those in `deleted`, and what was written since. -/
structure Reflects (done fresh : Text) (deleted : Finset Nat) (buffer : Buffer) : Prop where
  ends : EndsLine done
  below : ∀ stop ∈ deleted, stop < done.length
  laid : buffer.Laid (withoutLines deleted 0 done) fresh

variable {done fresh : Text} {deleted : Finset Nat} {buffer : Buffer}

theorem Reflects.append (reflects : buffer.Reflects done fresh deleted) (head chunk : Text) :
    (buffer.append head chunk).Reflects done (fresh ++ chunk) deleted :=
  ⟨reflects.ends, reflects.below, reflects.laid.append head chunk⟩

theorem Reflects.forget (reflects : buffer.Reflects done fresh deleted) :
    buffer.forget.Reflects (done ++ wholeLines fresh) (openLine fresh) deleted where
  ends := reflects.ends.append (endsLine_wholeLines fresh)
  below := by
    intro stop member
    have := reflects.below stop member
    rw [List.length_append]
    omega
  laid := by
    rw [withoutLines_append_of_below reflects.ends reflects.below]
    exact reflects.laid.forget

/-- Removing the pending warning deletes one more line, among those written since. -/
theorem Reflects.remove (reflects : buffer.Reflects done fresh deleted) {shorter : Buffer}
    (removed : buffer.remove? = some shorter) :
    ∃ stop, LineEndsAt fresh stop ∧
      shorter.Reflects (done ++ wholeLines fresh) (openLine fresh)
        (insert (done.length + stop) deleted) := by
  obtain ⟨front, body, back, whole, frontEnds, unbroken, left⟩ := reflects.laid.remove removed
  refine ⟨front.length + body.length,
    ⟨front ++ body, back ++ openLine fresh, eq_of_wholeLines_eq whole, by simp⟩,
    reflects.ends.append (endsLine_wholeLines fresh), ?_, ?_⟩
  · intro stop member
    rw [whole]
    simp only [List.length_append, List.length_cons]
    rcases Finset.mem_insert.mp member with rfl | earlier
    · omega
    · have := reflects.below stop earlier
      omega
  · rw [whole, withoutLines_insert reflects.below reflects.ends frontEnds unbroken]
    exact left

end Buffer

namespace Sweep

/-- A leaf that loses its warning has this offset in its content or directly before it. -/
def Sheds (sweep : Sweep) (tokens : List Token) (stop : Nat) : Prop :=
  ∃ front opening closing back, tokens = front ++ opening :: closing :: back ∧
    opening.mark = .start ∧ closing.mark = .stop ∧ sweep.keeps true closing.before = false ∧
    (Token.plain front).length ≤ stop ∧
    stop < (Token.plain (front ++ [opening, closing])).length

theorem Sheds.concat {sweep : Sweep} {tokens : List Token} {stop : Nat}
    (sheds : sweep.Sheds tokens stop) (token : Token) : sweep.Sheds (tokens ++ [token]) stop := by
  obtain ⟨front, opening, closing, back, rfl, opens, closes, released, above, below⟩ := sheds
  exact ⟨front, opening, closing, back ++ [token], by simp, opens, closes, released, above, below⟩

/-- What the walk has lost after these markers.  The lines of `base` are out of reach; after a START
the text directly before it is not. -/
structure Loses (sweep : Sweep) (tokens : List Token) (state : State) (base : Text)
    (deleted : Finset Nat) : Prop where
  plain_eq : Token.plain tokens = base ++ recent tokens
  reflects : state.buffer.Reflects (wholeLines base) (openLine base ++ recent tokens) deleted
  line_ends : ∀ stop ∈ deleted, LineEndsAt (Token.plain tokens) stop
  sheds : ∀ stop ∈ deleted, sweep.Sheds tokens stop
  card_eq : deleted.card = state.summary.removed
  last_eq : state.last = tokens.getLast?.map Token.mark

theorem loses_empty (sweep : Sweep) : sweep.Loses [] {} [] ∅ where
  plain_eq := rfl
  reflects := ⟨endsLine_nil, by simp, (Buffer.since_empty []).laid⟩
  line_ends := by simp
  sheds := by simp
  card_eq := rfl
  last_eq := rfl

section

variable {sweep : Sweep} {tokens : List Token} {state : State} {base : Text}
  {deleted : Finset Nat}

theorem Loses.plain_concat (loses : sweep.Loses tokens state base deleted) (token : Token) :
    Token.plain (tokens ++ [token]) = base ++ (recent tokens ++ token.before) := by
  rw [Token.plain_append, loses.plain_eq]
  simp

theorem Loses.reflects_append (loses : sweep.Loses tokens state base deleted) (token : Token) :
    (state.buffer.append sweep.warningHead token.before).Reflects (wholeLines base)
      (openLine base ++ (recent tokens ++ token.before)) deleted := by
  have reflects := loses.reflects.append sweep.warningHead token.before
  rwa [List.append_assoc] at reflects

theorem Loses.enter (loses : sweep.Loses tokens state base deleted) {token : Token}
    (starts : token.mark = .start) :
    sweep.Loses (tokens ++ [token]) (sweep.enter state token.before) (Token.plain tokens)
      deleted where
  plain_eq := by
    rw [recent_concat_start starts]
    simp
  reflects := by
    have reflects := loses.reflects.forget.append sweep.warningHead token.before
    rw [← wholeLines_append_chunk, ← openLine_append_chunk, ← loses.plain_eq] at reflects
    rw [recent_concat_start starts]
    exact reflects
  line_ends := by
    intro stop member
    rw [Token.plain_append]
    exact (loses.line_ends stop member).append _
  sheds := fun stop member => (loses.sheds stop member).concat token
  card_eq := loses.card_eq
  last_eq := by simp [Sweep.enter, starts]

theorem Loses.settle (loses : sweep.Loses tokens state base deleted) {token : Token}
    (stops : token.mark = .stop) {next : State} {deleted' : Finset Nat}
    (reflects : next.buffer.Reflects
      (wholeLines base ++ wholeLines (openLine base ++ (recent tokens ++ token.before)))
      (openLine (openLine base ++ (recent tokens ++ token.before))) deleted')
    (line_ends : ∀ stop ∈ deleted', LineEndsAt (Token.plain (tokens ++ [token])) stop)
    (sheds : ∀ stop ∈ deleted', sweep.Sheds (tokens ++ [token]) stop)
    (card_eq : deleted'.card = next.summary.removed) (last_eq : next.last = some .stop) :
    sweep.Loses (tokens ++ [token]) next (Token.plain (tokens ++ [token])) deleted' where
  plain_eq := by rw [recent_concat_stop stops, List.append_nil]
  reflects := by
    rw [← wholeLines_append_chunk, ← openLine_append_chunk, ← loses.plain_concat] at reflects
    rw [recent_concat_stop stops, List.append_nil]
    exact reflects
  line_ends := line_ends
  sheds := sheds
  card_eq := card_eq
  last_eq := by simp [last_eq, stops]

/-- The line that a released region removes ends in its content or directly before it: the line that
was open there has no newline yet. -/
theorem Loses.sheds_of_released (loses : sweep.Loses tokens state base deleted) {token : Token}
    (stops : token.mark = .stop)
    (released : sweep.keeps (state.last = some .start) token.before = false) {stop : Nat}
    (ending : LineEndsAt (openLine base ++ (recent tokens ++ token.before)) stop) :
    sweep.Sheds (tokens ++ [token]) ((wholeLines base).length + stop) := by
  have leaf := leaf_of_keeps_eq_false released
  rw [leaf] at released
  obtain ⟨front, opening, split, opens⟩ :=
    exists_of_last_start loses.last_eq (of_decide_eq_true leaf)
  have size : base.length = (wholeLines base).length + (openLine base).length := by
    rw [← List.length_append, wholeLines_append_openLine]
  have before : Token.plain front = base := by
    have plain := loses.plain_eq
    rw [split, recent_concat_start opens, Token.plain_append] at plain
    simpa using plain
  have reach := ending.warningEndsAt.length_le (newline_not_mem_openLine base)
  have inside := ending.warningEndsAt.lt_length
  refine ⟨front, opening, token, [], by simp [split], opens, stops, released, ?_, ?_⟩
  · rw [before]
    omega
  · have shape : front ++ [opening, token] = tokens ++ [token] := by simp [split]
    rw [shape, loses.plain_concat]
    simp only [List.length_append] at inside ⊢
    omega

theorem Loses.leave (loses : sweep.Loses tokens state base deleted) {token : Token}
    (stops : token.mark = .stop) :
    ∃ deleted', sweep.Loses (tokens ++ [token]) (sweep.leave state token.before)
      (Token.plain (tokens ++ [token])) deleted' := by
  have reflects := loses.reflects_append token
  have lineEnds : ∀ stop ∈ deleted, LineEndsAt (Token.plain (tokens ++ [token])) stop := by
    intro stop member
    rw [Token.plain_append]
    exact (loses.line_ends stop member).append _
  have sheds : ∀ stop ∈ deleted, sweep.Sheds (tokens ++ [token]) stop :=
    fun stop member => (loses.sheds stop member).concat token
  obtain ⟨last, -, ⟨-, buffer, -, count⟩ | ⟨-, none, buffer, -, count⟩ |
    ⟨released, removed, -, count⟩⟩ := leave_cases sweep state token.before
  · refine ⟨deleted, loses.settle stops ?_ lineEnds sheds (by rw [count, loses.card_eq]) last⟩
    rw [buffer]
    exact reflects.forget
  · refine ⟨deleted, loses.settle stops ?_ lineEnds sheds (by rw [count, loses.card_eq]) last⟩
    rw [buffer, ← Buffer.forget_of_pending_none (Buffer.remove?_eq_none_iff.mp none)]
    exact reflects.forget
  · obtain ⟨stop, ending, shorter⟩ := reflects.remove removed
    have fresh : (wholeLines base).length + stop ∉ deleted := by
      intro member
      have := reflects.below _ member
      omega
    refine ⟨_, loses.settle stops shorter ?_ ?_ ?_ last⟩
    · refine Finset.forall_mem_insert _ _ _ |>.mpr ⟨?_, lineEnds⟩
      rw [loses.plain_concat, ← wholeLines_append_openLine_append base]
      exact ending.append_left _
    · exact Finset.forall_mem_insert _ _ _ |>.mpr
        ⟨loses.sheds_of_released stops released ending, sheds⟩
    · rw [Finset.card_insert_of_notMem fresh, count, loses.card_eq]

/-- After any pieces the walk has lost as many lines as it has counted. -/
theorem exists_loses_walk (sweep : Sweep) (pieces : List Piece) :
    ∃ base deleted, sweep.Loses (pieces.map Piece.token) (sweep.walk pieces) base deleted := by
  induction pieces using List.reverseRecOn with
  | nil => exact ⟨_, _, sweep.loses_empty⟩
  | append_singleton pieces piece inductionHypothesis =>
      obtain ⟨base, deleted, loses⟩ := inductionHypothesis
      rw [List.map_append, walk_concat, step]
      cases mark : piece.mark with
      | start => exact ⟨_, _, loses.enter mark⟩
      | stop => exact ⟨_, loses.leave mark⟩

end

theorem Sheds.exists_region {sweep : Sweep} {tokens : List Token} {stop : Nat}
    (sheds : sweep.Sheds tokens stop) :
    ∃ region : Region tokens,
      sweep.Releases region ∧ region.begins ≤ stop ∧ stop < region.ends := by
  obtain ⟨front, opening, closing, back, rfl, opens, closes, released, above, below⟩ := sheds
  obtain ⟨nonblank, harmless⟩ := keeps_leaf_eq_false_iff.mp released
  let region : Region (front ++ opening :: closing :: back) :=
    ⟨front, opening, [], closing, back, by simp, opens, closes, by decide⟩
  refine ⟨region, ⟨Region.isLeaf_iff.mpr rfl, nonblank, harmless⟩, above, ?_⟩
  rw [Region.ends_of_leaf rfl]
  exact below

/-- The lines that a sweep loses: whole lines, each in the reach of a region that loses its warning,
as many as counted, and for a head without newlines just those that the regions delete. -/
theorem exists_lost (sweep : Sweep) (pieces : List Piece) (tail : Text) :
    ∃ deleted : Finset Nat,
      (∀ stop ∈ deleted, LineEndsAt (Reading.plain ⟨pieces.map Piece.token, tail⟩) stop) ∧
      (∀ stop ∈ deleted, ∃ region : Region (pieces.map Piece.token), sweep.Releases region ∧
        region.begins ≤ stop ∧ stop < region.ends) ∧
      (newline ∉ sweep.warningHead → ∀ stop, stop ∈ deleted ↔
        sweep.Deletes ⟨pieces.map Piece.token, tail⟩ stop) ∧
      sweep.leftover pieces tail =
        withoutLines deleted 0 (Reading.plain ⟨pieces.map Piece.token, tail⟩) ∧
      deleted.card = (sweep.walk pieces).summary.removed := by
  obtain ⟨base, deleted, loses⟩ := sweep.exists_loses_walk pieces
  have lineEnds : ∀ stop ∈ deleted,
      LineEndsAt (Reading.plain ⟨pieces.map Piece.token, tail⟩) stop :=
    fun stop member => (loses.line_ends stop member).append tail
  have left : sweep.leftover pieces tail =
      withoutLines deleted 0 (Reading.plain ⟨pieces.map Piece.token, tail⟩) := by
    rw [leftover, Buffer.append_text, loses.reflects.laid.text_eq, Reading.plain, loses.plain_eq,
      List.append_assoc base, ← wholeLines_append_openLine_append base,
      withoutLines_append_of_below loses.reflects.ends loses.reflects.below]
    simp
  by_cases plain : newline ∈ sweep.warningHead
  · exact ⟨deleted, lineEnds, fun stop member => (loses.sheds stop member).exists_region,
      fun unbroken => absurd plain unbroken, left, loses.card_eq⟩
  · obtain ⟨deleted', mem_deleted', left'⟩ := exists_leftover_eq plain pieces tail
    have lineEnds' : ∀ stop ∈ deleted',
        LineEndsAt (Reading.plain ⟨pieces.map Piece.token, tail⟩) stop := by
      intro stop member
      obtain ⟨region, -, found⟩ := (mem_deleted' stop).mp member
      exact found.warns.lineEndsAt
    refine ⟨deleted', lineEnds', ?_, fun _ => mem_deleted', left', ?_⟩
    · intro stop member
      obtain ⟨region, released, found⟩ := (mem_deleted' stop).mp member
      exact ⟨region, released, found.above, found.below⟩
    · rw [← loses.card_eq]
      exact card_eq_of_withoutLines_eq lineEnds' lineEnds (left'.symm.trans left)

end Sweep

end WarningSweep
