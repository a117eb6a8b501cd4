import Mathlib.Data.List.Induction
import WarningSweep.Proofs.Buffer
import WarningSweep.Proofs.Marker.Balance
import WarningSweep.Proofs.Sweep.Basic
import WarningSweep.Proofs.Text.Blank

/-!
# Which lines a sweep deletes

A sweep deletes a line for each leaf region whose content is not blank and needs no warning: the
last warning line that ends in that content or in the plain text directly before the region.  The
walk over the pieces keeps the plain text read so far without exactly these lines.
-/

namespace WarningSweep

namespace Region

variable {tokens : List Token}

def content (region : Region tokens) : Text :=
  Token.plain region.inner ++ region.closing.before

def begins (region : Region tokens) : Nat := (Token.plain region.front).length

def ends (region : Region tokens) : Nat :=
  region.begins + region.opening.before.length + region.content.length

theorem ends_le_length (region : Region tokens) : region.ends ≤ (Token.plain tokens).length := by
  have size := congrArg (fun tokens => (Token.plain tokens).length) region.tokens_eq
  simp only [Token.plain_append, Token.plain_cons, List.length_append] at size
  simp only [ends, begins, content, List.length_append]
  omega

theorem ends_of_leaf {region : Region tokens} (leaf : region.inner = []) :
    region.ends =
      (Token.plain (region.front ++ [region.opening, region.closing])).length := by
  simp only [ends, begins, content, leaf, Token.plain_append, Token.plain_cons, Token.plain_nil,
    List.length_append, List.length_nil]
  omega

end Region

namespace Sweep

open Text

/-- A leaf whose content is not blank and needs no warning. -/
structure Releases (sweep : Sweep) {tokens : List Token} (region : Region tokens) : Prop where
  leaf : region.IsLeaf
  nonblank : ∃ g ∈ region.content, g.isBlank = false
  harmless : sweep.rule.needsWarning region.content = false

/-- The line of the plain text that ends at `stop` is the warning that some region loses. -/
def Deletes (sweep : Sweep) (reading : Reading) (stop : Nat) : Prop :=
  ∃ region : Region reading.tokens, sweep.Releases region ∧
    LastWarningIn sweep.warningHead reading.plain region.begins region.ends stop

/-- The same, for the markers read so far, said of two neighbours. -/
def Drops (sweep : Sweep) (tokens : List Token) (stop : Nat) : Prop :=
  ∃ front opening closing back, tokens = front ++ opening :: closing :: back ∧
    opening.mark = .start ∧ closing.mark = .stop ∧ sweep.keeps true closing.before = false ∧
    LastWarningIn sweep.warningHead (Token.plain tokens) (Token.plain front).length
      (Token.plain (front ++ [opening, closing])).length stop

theorem drops_concat_iff {sweep : Sweep} {tokens : List Token} {token : Token} {stop : Nat} :
    sweep.Drops (tokens ++ [token]) stop ↔
      sweep.Drops tokens stop ∨
        token.mark = .stop ∧ sweep.keeps true token.before = false ∧
          ∃ front opening, tokens = front ++ [opening] ∧ opening.mark = .start ∧
            LastWarningIn sweep.warningHead (Token.plain (tokens ++ [token]))
              (Token.plain front).length (Token.plain (tokens ++ [token])).length stop := by
  constructor
  · rintro ⟨front, opening, closing, back, split, opens, closes, released, found⟩
    rcases List.eq_nil_or_concat' back with rfl | ⟨initial, last, rfl⟩
    · have regroup : tokens ++ [token] = (front ++ [opening]) ++ [closing] := by simpa using split
      obtain ⟨rfl, same⟩ := List.append_inj' regroup rfl
      obtain rfl : token = closing := by simpa using same
      exact .inr ⟨closes, released, front, opening, rfl, opens, by simpa using found⟩
    · have regroup : tokens ++ [token] = (front ++ opening :: closing :: initial) ++ [last] := by
        simpa using split
      obtain ⟨rfl, -⟩ := List.append_inj' regroup rfl
      refine .inl ⟨front, opening, closing, initial, rfl, opens, closes, released, ?_⟩
      rw [Token.plain_append, lastWarningIn_append_left (by simp)] at found
      exact found
  · rintro (⟨front, opening, closing, back, rfl, opens, closes, released, found⟩ |
      ⟨closes, released, front, opening, rfl, opens, found⟩)
    · refine ⟨front, opening, closing, back ++ [token], by simp, opens, closes, released, ?_⟩
      rw [Token.plain_append, lastWarningIn_append_left (by simp)]
      exact found
    · exact ⟨front, opening, token, [], by simp, opens, closes, released, by simpa using found⟩

theorem drops_concat_of_kept {sweep : Sweep} {tokens : List Token} {token : Token} {stop : Nat}
    (kept : ∀ front opening, tokens = front ++ [opening] → opening.mark = .start →
      token.mark = .stop → sweep.keeps true token.before = true) :
    sweep.Drops (tokens ++ [token]) stop ↔ sweep.Drops tokens stop := by
  rw [drops_concat_iff, or_iff_left]
  rintro ⟨closes, released, front, opening, split, opens, -⟩
  rw [kept front opening split opens closes] at released
  cases released

/-- The plain text directly before the last marker, if that is a START. -/
def recent (tokens : List Token) : Text :=
  match tokens.getLast? with
  | some ⟨before, .start, _⟩ => before
  | _ => []

theorem recent_concat_start {tokens : List Token} {token : Token} (starts : token.mark = .start) :
    recent (tokens ++ [token]) = token.before := by
  obtain ⟨before, mark, offset⟩ := token
  obtain rfl : mark = .start := starts
  simp [recent]

theorem recent_concat_stop {tokens : List Token} {token : Token} (stops : token.mark = .stop) :
    recent (tokens ++ [token]) = [] := by
  obtain ⟨before, mark, offset⟩ := token
  obtain rfl : mark = .stop := stops
  simp [recent]

theorem exists_of_last_start {tokens : List Token} {last : Option Mark}
    (last_eq : last = tokens.getLast?.map Token.mark) (starts : last = some .start) :
    ∃ front opening, tokens = front ++ [opening] ∧ opening.mark = .start := by
  rw [last_eq, Option.map_eq_some_iff] at starts
  obtain ⟨opening, found, opens⟩ := starts
  obtain ⟨front, split⟩ := List.getLast?_eq_some_iff.mp found
  exact ⟨front, opening, split, opens⟩

/-- What the walk knows after these markers: its buffer holds the plain text without the lines in
`deleted`, and looks for the next warning in the lines that end in the `recent` text or after it. -/
structure Tracks (sweep : Sweep) (tokens : List Token) (state : State) (done opened : Text)
    (deleted : Finset Nat) : Prop where
  ends : EndsLine done
  unbroken : newline ∉ opened
  plain_eq : Token.plain tokens = done ++ (opened ++ recent tokens)
  since : state.buffer.Since sweep.warningHead (withoutLines deleted 0 done)
    (opened ++ recent tokens)
  below : ∀ stop ∈ deleted, stop < done.length
  mem_deleted : ∀ stop, stop ∈ deleted ↔ sweep.Drops tokens stop
  last_eq : state.last = tokens.getLast?.map Token.mark

theorem tracks_empty (sweep : Sweep) : sweep.Tracks [] {} [] [] ∅ where
  ends := endsLine_nil
  unbroken := by simp
  plain_eq := rfl
  since := Buffer.since_empty sweep.warningHead
  below := by simp
  mem_deleted := by simp [Drops]
  last_eq := rfl

section

variable {sweep : Sweep} {tokens : List Token} {state : State} {done opened : Text}
  {deleted : Finset Nat}

/-- All that follows the deleted lines stands in the buffer as it was read. -/
theorem Tracks.withoutLines_append (tracks : sweep.Tracks tokens state done opened deleted)
    (t : Text) : withoutLines deleted 0 (done ++ t) = withoutLines deleted 0 done ++ t :=
  withoutLines_append_of_below tracks.ends tracks.below t

theorem Tracks.plain_front (tracks : sweep.Tracks tokens state done opened deleted)
    {front : List Token} {opening : Token} (split : tokens = front ++ [opening])
    (opens : opening.mark = .start) : Token.plain front = done ++ opened := by
  have plain := tracks.plain_eq
  rw [split, recent_concat_start opens, Token.plain_append, ← List.append_assoc] at plain
  simp only [Token.plain_cons, Token.plain_nil, List.append_nil] at plain
  exact List.append_cancel_right plain

theorem Tracks.plain_concat (tracks : sweep.Tracks tokens state done opened deleted)
    (token : Token) :
    Token.plain (tokens ++ [token]) = done ++ (opened ++ (recent tokens ++ token.before)) := by
  rw [Token.plain_append, tracks.plain_eq]
  simp

theorem Tracks.below_append (tracks : sweep.Tracks tokens state done opened deleted) (t : Text) :
    ∀ stop ∈ deleted, stop < (done ++ t).length := by
  intro stop member
  have := tracks.below stop member
  rw [List.length_append]
  omega

theorem Tracks.since_append (plain : newline ∉ sweep.warningHead)
    (tracks : sweep.Tracks tokens state done opened deleted) (token : Token) :
    (state.buffer.append sweep.warningHead token.before).Since sweep.warningHead
      (withoutLines deleted 0 done) (opened ++ (recent tokens ++ token.before)) := by
  have since := tracks.since.append plain token.before
  rwa [List.append_assoc] at since

theorem Tracks.enter (plain : newline ∉ sweep.warningHead)
    (tracks : sweep.Tracks tokens state done opened deleted) {token : Token}
    (starts : token.mark = .start) :
    sweep.Tracks (tokens ++ [token]) (sweep.enter state token.before)
      (done ++ wholeLines (opened ++ recent tokens)) (openLine (opened ++ recent tokens))
      deleted where
  ends := tracks.ends.append (endsLine_wholeLines _)
  unbroken := newline_not_mem_openLine _
  plain_eq := by
    rw [recent_concat_start starts, tracks.plain_concat, List.append_assoc done,
      ← List.append_assoc (wholeLines _), wholeLines_append_openLine, List.append_assoc opened]
  since := by
    rw [recent_concat_start starts, tracks.withoutLines_append]
    exact tracks.since.forget.append plain token.before
  below := tracks.below_append _
  mem_deleted := by
    intro stop
    rw [tracks.mem_deleted, drops_concat_of_kept]
    intro _ _ _ _ stops
    rw [starts] at stops
    cases stops
  last_eq := by simp [Sweep.enter, starts]

theorem Tracks.settle (tracks : sweep.Tracks tokens state done opened deleted) {token : Token}
    (stops : token.mark = .stop) {next : State} {deleted' : Finset Nat}
    (since : next.buffer.Since sweep.warningHead
      (withoutLines deleted' 0 (done ++ wholeLines (opened ++ (recent tokens ++ token.before))))
      (openLine (opened ++ (recent tokens ++ token.before))))
    (below : ∀ stop ∈ deleted',
      stop < (done ++ wholeLines (opened ++ (recent tokens ++ token.before))).length)
    (mem_deleted : ∀ stop, stop ∈ deleted' ↔ sweep.Drops (tokens ++ [token]) stop)
    (last_eq : next.last = some .stop) :
    sweep.Tracks (tokens ++ [token]) next
      (done ++ wholeLines (opened ++ (recent tokens ++ token.before)))
      (openLine (opened ++ (recent tokens ++ token.before))) deleted' where
  ends := tracks.ends.append (endsLine_wholeLines _)
  unbroken := newline_not_mem_openLine _
  plain_eq := by
    rw [recent_concat_stop stops, List.append_nil, List.append_assoc done,
      wholeLines_append_openLine, tracks.plain_concat]
  since := by
    rw [recent_concat_stop stops, List.append_nil]
    exact since
  below := below
  mem_deleted := mem_deleted
  last_eq := by simp [last_eq, stops]

/-- The warning that a released region loses is the last one among the lines that its content
completes. -/
theorem Tracks.drops_released (tracks : sweep.Tracks tokens state done opened deleted)
    {token : Token} (stops : token.mark = .stop)
    (released : sweep.keeps (state.last = some .start) token.before = false)
    {front body back : Text}
    (whole : wholeLines (opened ++ (recent tokens ++ token.before)) =
      front ++ body ++ newline :: back)
    (frontEnds : EndsLine front) (unbroken : newline ∉ body)
    (warns : IsWarning sweep.warningHead body)
    (last : ∀ stop, ¬ WarningEndsAt sweep.warningHead back stop) (stop : Nat) :
    stop ∈ insert (done.length + (front.length + body.length)) deleted ↔
      sweep.Drops (tokens ++ [token]) stop := by
  have leaf := leaf_of_keeps_eq_false released
  obtain ⟨before, opening, split, opens⟩ :=
    exists_of_last_start tracks.last_eq (of_decide_eq_true leaf)
  rw [leaf] at released
  have chosen := @lastWarningIn_fresh_iff sweep.warningHead done opened
    (recent tokens ++ token.before) tracks.ends tracks.unbroken front body back whole frontEnds
    unbroken warns last stop
  rw [Finset.mem_insert, tracks.mem_deleted, drops_concat_iff, or_comm, tracks.plain_concat]
  refine or_congr Iff.rfl ?_
  constructor
  · intro same
    refine ⟨stops, released, before, opening, split, opens, ?_⟩
    rw [tracks.plain_front split opens, List.length_append]
    exact chosen.mpr same
  · rintro ⟨-, -, before', opening', split', opens', found⟩
    rw [tracks.plain_front split' opens', List.length_append] at found
    exact chosen.mp found

/-- A region that loses its warning adds one line to the deleted ones. -/
theorem Tracks.leave_removed (plain : newline ∉ sweep.warningHead)
    (tracks : sweep.Tracks tokens state done opened deleted) {token : Token}
    (stops : token.mark = .stop)
    (released : sweep.keeps (state.last = some .start) token.before = false) {next : State}
    (last : next.last = some .stop)
    (removed : (state.buffer.append sweep.warningHead token.before).remove? = some next.buffer) :
    ∃ done' opened' deleted', sweep.Tracks (tokens ++ [token]) next done' opened' deleted' := by
  have since := tracks.since_append plain token
  obtain ⟨start, pending⟩ := Buffer.exists_pending_of_remove? removed
  obtain ⟨front, body, back, whole, frontEnds, unbroken, warns, rfl, latest⟩ :=
    lastWarning?_eq_some plain (endsLine_wholeLines _) (since.pending_eq ▸ pending)
  obtain ⟨shorter, same, left⟩ := since.remove whole frontEnds unbroken pending
  rw [removed, Option.some.injEq] at same
  refine ⟨_, _, insert (done.length + (front.length + body.length)) deleted,
    tracks.settle stops ?_ ?_ ?_ last⟩
  · rw [same, whole, withoutLines_insert tracks.below tracks.ends frontEnds unbroken]
    exact left
  · intro stop member
    rcases Finset.mem_insert.mp member with rfl | earlier
    · rw [whole]
      simp only [List.length_append, List.length_cons]
      omega
    · exact tracks.below_append _ stop earlier
  · exact tracks.drops_released stops released whole frontEnds unbroken warns latest

theorem Tracks.leave (plain : newline ∉ sweep.warningHead)
    (tracks : sweep.Tracks tokens state done opened deleted) {token : Token}
    (stops : token.mark = .stop) :
    ∃ done' opened' deleted',
      sweep.Tracks (tokens ++ [token]) (sweep.leave state token.before) done' opened' deleted' := by
  have since := tracks.since_append plain token
  obtain ⟨last, -, ⟨kept, buffer, -⟩ | ⟨released, none, buffer, -⟩ | ⟨released, removed, -⟩⟩ :=
    leave_cases sweep state token.before
  · refine ⟨_, _, deleted, tracks.settle stops ?_ (tracks.below_append _) ?_ last⟩
    · rw [buffer, tracks.withoutLines_append]
      exact since.forget
    · intro stop
      rw [tracks.mem_deleted, drops_concat_of_kept]
      intro front opening split opens _
      simpa [tracks.last_eq, split, opens] using kept
  · have pending := Buffer.remove?_eq_none_iff.mp none
    refine ⟨_, _, deleted, tracks.settle stops ?_ (tracks.below_append _) ?_ last⟩
    · -- with no warning pending, keeping all warnings changes nothing
      rw [buffer, tracks.withoutLines_append, ← Buffer.forget_of_pending_none pending]
      exact since.forget
    · intro stop
      rw [since.pending_eq, lastWarning?_eq_none_iff plain (endsLine_wholeLines _)] at pending
      rw [tracks.mem_deleted, drops_concat_iff, or_iff_left]
      rintro ⟨-, -, front, opening, split, opens, found⟩
      rw [tracks.plain_concat, tracks.plain_front split opens, List.length_append] at found
      exact not_lastWarningIn_fresh tracks.ends tracks.unbroken pending _ _ found
  · exact tracks.leave_removed plain stops released last removed

/-- After any pieces the walk has deleted just the lines that they drop. -/
theorem exists_tracks_walk (plain : newline ∉ sweep.warningHead) (pieces : List Piece) :
    ∃ done opened deleted,
      sweep.Tracks (pieces.map Piece.token) (sweep.walk pieces) done opened deleted := by
  induction pieces using List.reverseRecOn with
  | nil => exact ⟨_, _, _, sweep.tracks_empty⟩
  | append_singleton pieces piece inductionHypothesis =>
      obtain ⟨done, opened, deleted, tracks⟩ := inductionHypothesis
      rw [List.map_append, walk_concat, step]
      cases mark : piece.mark with
      | start => exact ⟨_, _, _, tracks.enter plain mark⟩
      | stop => exact tracks.leave plain mark

end

theorem keeps_leaf_eq_false_iff {sweep : Sweep} {content : Text} :
    sweep.keeps true content = false ↔
      (∃ g ∈ content, g.isBlank = false) ∧ sweep.rule.needsWarning content = false := by
  have nonblank : content.trim ≠ [] ↔ ∃ g ∈ content, g.isBlank = false := by
    rw [Ne, trim_eq_nil_iff]
    simp
  simp [keeps, ← nonblank, and_comm]

/-- The END of a leaf stands next to its START, so the regions that lose a warning are pairs of
neighbours. -/
theorem deletes_iff_drops {sweep : Sweep} {tokens : List Token} {tail : Text} {stop : Nat} :
    sweep.Deletes ⟨tokens, tail⟩ stop ↔ sweep.Drops tokens stop := by
  constructor
  · rintro ⟨region, ⟨leaf, nonblank, harmless⟩, found⟩
    have neighbours := region.tokens_eq
    rw [Region.isLeaf_iff] at leaf
    rw [leaf] at neighbours
    have content : region.content = region.closing.before := by simp [Region.content, leaf]
    refine ⟨region.front, region.opening, region.closing, region.back, by simpa using neighbours,
      region.opens, region.closes, ?_, ?_⟩
    · rw [← content]
      exact keeps_leaf_eq_false_iff.mpr ⟨nonblank, harmless⟩
    · rw [Reading.plain, lastWarningIn_append_left region.ends_le_length,
        Region.ends_of_leaf leaf] at found
      exact found
  · rintro ⟨front, opening, closing, back, rfl, opens, closes, released, found⟩
    obtain ⟨nonblank, harmless⟩ := keeps_leaf_eq_false_iff.mp released
    let region : Region (front ++ opening :: closing :: back) :=
      ⟨front, opening, [], closing, back, by simp, opens, closes, by decide⟩
    refine ⟨region, ⟨Region.isLeaf_iff.mpr rfl, nonblank, harmless⟩, ?_⟩
    rw [Reading.plain, lastWarningIn_append_left region.ends_le_length, Region.ends_of_leaf rfl]
    exact found

/-- The walk leaves the plain text without the lines that its regions lose. -/
theorem exists_leftover_eq {sweep : Sweep} (plain : newline ∉ sweep.warningHead)
    (pieces : List Piece) (tail : Text) :
    ∃ deleted : Finset Nat,
      (∀ stop, stop ∈ deleted ↔ sweep.Deletes ⟨pieces.map Piece.token, tail⟩ stop) ∧
      sweep.leftover pieces tail =
        withoutLines deleted 0 (Reading.plain ⟨pieces.map Piece.token, tail⟩) := by
  obtain ⟨done, opened, deleted, tracks⟩ := exists_tracks_walk plain pieces
  refine ⟨deleted, fun stop => (tracks.mem_deleted stop).trans deletes_iff_drops.symm, ?_⟩
  rw [leftover, Buffer.append_text, tracks.since.text_eq, Reading.plain, tracks.plain_eq,
    List.append_assoc done, tracks.withoutLines_append, List.append_assoc]

end Sweep

end WarningSweep
