import Mathlib.Data.List.Induction
import WarningSweep.Proofs.Buffer

/-!
# A buffer through any uses

A buffer searches only the lines that a chunk completes.  After any uses it knows what a search of
its whole text would find: where the last line starts, and the last warning that starts where the
buffer was last cleared or after.  How the text was cut into chunks between two clearings leaves no
trace.
-/

namespace WarningSweep

namespace Text

def WarningStartsAt (head t : Text) (start : Nat) : Prop :=
  ∃ front body back, t = front ++ body ++ newline :: back ∧ EndsLine front ∧ newline ∉ body ∧
    IsWarning head body ∧ start = front.length

/-- The last warning line of `t` that starts at `low` or after it starts at `start`. -/
structure LastWarningFrom (head t : Text) (low start : Nat) : Prop where
  above : low ≤ start
  warns : WarningStartsAt head t start
  last : ∀ later, WarningStartsAt head t later → later ≤ start

/-- The last line starts just after the last newline, or where the text does. -/
theorem lastLineStart_cases (t : Text) :
    (newline ∉ t ∧ lastLineStart t = 0) ∨
      ∃ front back, t = front ++ newline :: back ∧ newline ∉ back ∧
        lastLineStart t = front.length + 1 := by
  rcases endsLine_wholeLines t with none | ⟨front, whole⟩
  · have unbroken : newline ∉ t := by
      have rest := newline_not_mem_openLine t
      rwa [← List.nil_append (openLine t), ← none, wholeLines_append_openLine] at rest
    exact .inl ⟨unbroken, lastLineStart_of_not_mem unbroken⟩
  · refine .inr ⟨front, openLine t, ?_, newline_not_mem_openLine t, ?_⟩
    · rw [List.append_cons, ← whole, wholeLines_append_openLine]
    · rw [← length_wholeLines, whole, List.length_append, List.length_singleton]

/-- A line that starts after another one starts stands in what follows that one. -/
theorem exists_of_line_after {front body back front' rest : Text} (unbroken : newline ∉ body)
    (ends : EndsLine front') (same : front ++ body ++ newline :: back = front' ++ rest)
    (later : front.length < front'.length) : ∃ more, EndsLine more ∧ back = more ++ rest := by
  rw [List.append_assoc] at same
  obtain ⟨extra, rfl⟩ := List.prefix_of_prefix_length_le (List.prefix_append front _)
    (same ▸ List.prefix_append front' rest) later.le
  rw [List.append_assoc, List.append_cancel_left_eq] at same
  rcases ends.right.eq_nil_or_line with rfl | ⟨first, more, rfl, firstUnbroken, moreEnds⟩
  · simp at later
  · rw [List.append_assoc, List.cons_append] at same
    exact ⟨more, moreEnds, (line_inj unbroken firstUnbroken same).2⟩

theorem warningStartsAt_append_iff {head done fresh : Text} (ends : EndsLine done) {start : Nat} :
    (done.length ≤ start ∧ WarningStartsAt head (done ++ fresh) start) ↔
      ∃ place, WarningStartsAt head fresh place ∧ start = done.length + place := by
  constructor
  · rintro ⟨above, front, body, back, cut, frontEnds, unbroken, warns, rfl⟩
    rw [List.append_assoc] at cut
    obtain ⟨inner, rfl⟩ := List.prefix_of_prefix_length_le (List.prefix_append done fresh)
      (cut ▸ List.prefix_append front _) above
    rw [List.append_assoc, List.append_cancel_left_eq, ← List.append_assoc] at cut
    exact ⟨inner.length, ⟨inner, body, back, cut, frontEnds.right, unbroken, warns, rfl⟩, by simp⟩
  · rintro ⟨-, ⟨front, body, back, rfl, frontEnds, unbroken, warns, rfl⟩, rfl⟩
    exact ⟨by omega, done ++ front, body, back, by simp, ends.append frontEnds, unbroken, warns,
      by simp⟩

theorem WarningStartsAt.exists_ends {head t : Text} {start : Nat}
    (warns : WarningStartsAt head t start) : ∃ stop, WarningEndsAt head t stop := by
  obtain ⟨front, body, back, cut, ends, unbroken, warns, -⟩ := warns
  exact ⟨_, front, body, back, cut, ends, unbroken, warns, rfl⟩

/-- Searching the whole lines written since finds the last warning that starts there. -/
theorem lastWarningFrom_of_lastWarning? {head : Text} (plain : newline ∉ head) {done : Text}
    (ends : EndsLine done) {fresh : Text} {start : Nat}
    (found : lastWarning? head done.length (wholeLines fresh) = some start) :
    LastWarningFrom head (done ++ fresh) done.length start := by
  obtain ⟨front, body, back, whole, frontEnds, unbroken, warns, rfl, last⟩ :=
    lastWarning?_eq_some plain (endsLine_wholeLines fresh) found
  have cut : done ++ fresh = (done ++ front) ++ body ++ newline :: (back ++ openLine fresh) := by
    calc
      done ++ fresh = done ++ (front ++ body ++ newline :: (back ++ openLine fresh)) := by
        rw [← eq_of_wholeLines_eq whole]
      _ = (done ++ front) ++ body ++ newline :: (back ++ openLine fresh) := by simp
  refine ⟨by omega, ⟨done ++ front, body, _, cut, ends.append frontEnds, unbroken, warns, by simp⟩,
    ?_⟩
  rintro - ⟨front', body', back', cut', frontEnds', unbroken', warns', rfl⟩
  rw [← List.length_append]
  apply Nat.le_of_not_lt
  intro later
  rw [List.append_assoc] at cut'
  obtain ⟨more, moreEnds, rest⟩ :=
    exists_of_line_after unbroken frontEnds' (cut.symm.trans cut') later
  -- the other line would then be a warning among the lines after the last one
  have ending : WarningEndsAt head (back ++ openLine fresh) (more.length + body'.length) :=
    ⟨more, body', back', by rw [rest, List.append_assoc], moreEnds, unbroken', warns', rfl⟩
  rcases (warningEndsAt_append (endsLine_of_wholeLines_eq whole)).mp ending with
      inBack | ⟨place, inOpen, -⟩
  · exact last _ inBack
  · exact not_warningEndsAt_of_not_mem (newline_not_mem_openLine fresh) place inOpen

theorem lastWarning?_eq_none_iff_from {head : Text} (plain : newline ∉ head) {done : Text}
    (ends : EndsLine done) {fresh : Text} :
    lastWarning? head done.length (wholeLines fresh) = none ↔
      ∀ start, done.length ≤ start → ¬ WarningStartsAt head (done ++ fresh) start := by
  rw [lastWarning?_eq_none_iff plain (endsLine_wholeLines fresh)]
  simp only [warningEndsAt_wholeLines]
  constructor
  · intro none start above warns
    obtain ⟨place, inFresh, -⟩ := (warningStartsAt_append_iff ends).mp ⟨above, warns⟩
    obtain ⟨stop, ending⟩ := inFresh.exists_ends
    exact none stop ending
  · rintro none stop ⟨front, body, back, cut, frontEnds, unbroken, warns, -⟩
    obtain ⟨above, starts⟩ := (warningStartsAt_append_iff ends).mpr
      ⟨front.length, ⟨front, body, back, cut, frontEnds, unbroken, warns, rfl⟩, rfl⟩
    exact none _ above starts

end Text

namespace Buffer

open Text

variable {head done fresh : Text} {buffer : Buffer}

theorem Since.unique {other : Buffer} (since : buffer.Since head done fresh)
    (otherSince : other.Since head done fresh) : buffer = other := by
  obtain ⟨text, pending, unscanned⟩ := buffer
  obtain ⟨text', pending', unscanned'⟩ := other
  obtain ⟨-, rfl, rfl, rfl⟩ := since
  obtain ⟨-, rfl, rfl, rfl⟩ := otherSince
  rfl

theorem append_nil (head : Text) (buffer : Buffer) : buffer.append head [] = buffer := by
  rw [Buffer.append, if_pos (.inl rfl), List.append_nil]

theorem Since.append_append (plain : newline ∉ head) (since : buffer.Since head done fresh)
    (first second : Text) :
    (buffer.append head first).append head second = buffer.append head (first ++ second) := by
  refine ((since.append plain first).append plain second).unique ?_
  rw [List.append_assoc]
  exact since.append plain (first ++ second)

/-- What can be done with a buffer. -/
inductive Use where
  | append (chunk : Text)
  | forget
  | remove
  deriving DecidableEq, Repr

inductive Clearing where
  | forgotten
  | removed
  deriving DecidableEq, Repr

/-- A buffer with its history: the value of `unscanned` right after the last clearing, the text that
was written before each clearing, and the text written since. -/
structure Session where
  buffer : Buffer := {}
  cleared : Nat := 0
  past : List (Text × Clearing) := []
  written : Text := []
  deriving DecidableEq, Repr

namespace Session

def clear (session : Session) (clearing : Clearing) (buffer : Buffer) : Session where
  buffer := buffer
  cleared := buffer.unscanned
  past := session.past ++ [(session.written, clearing)]
  written := []

/-- Removing clears only where a warning is pending; otherwise it does nothing. -/
def step (head : Text) (session : Session) : Use → Session
  | .append chunk =>
      { session with
        buffer := session.buffer.append head chunk
        written := session.written ++ chunk }
  | .forget => session.clear .forgotten session.buffer.forget
  | .remove =>
      match session.buffer.remove? with
      | none => session
      | some shorter => session.clear .removed shorter

def run (head : Text) (uses : List Use) : Session := uses.foldl (step head) {}

end Session

/-- The buffer after one clearing more, with the text before it written in one chunk. -/
def replayStep (head : Text) (buffer : Buffer) (entry : Text × Clearing) : Buffer :=
  match entry.2 with
  | .forgotten => (buffer.append head entry.1).forget
  | .removed => ((buffer.append head entry.1).remove?).getD buffer

/-- The buffer after these clearings, each time with all text written in one chunk. -/
def replay (head : Text) (past : List (Text × Clearing)) : Buffer :=
  past.foldl (replayStep head) {}

/-- What a session knows: its buffer is that of the history, and the history determines which lines
are out of reach. -/
structure Session.Follows (head : Text) (session : Session) (done opened : Text) : Prop where
  since : (replay head session.past).Since head done opened
  unbroken : newline ∉ opened
  cleared_eq : session.cleared = done.length
  buffer_eq : session.buffer = (replay head session.past).append head session.written

namespace Session

variable {session : Session} {opened : Text}

theorem follows_empty (head : Text) : Follows head {} [] [] where
  since := since_empty head
  unbroken := by simp
  cleared_eq := rfl
  buffer_eq := (append_nil head {}).symm

theorem Follows.since_buffer (plain : newline ∉ head) (follows : session.Follows head done opened) :
    session.buffer.Since head done (opened ++ session.written) := by
  rw [follows.buffer_eq]
  exact follows.since.append plain session.written

theorem Follows.append (plain : newline ∉ head) (follows : session.Follows head done opened)
    (chunk : Text) : (session.step head (.append chunk)).Follows head done opened where
  since := follows.since
  unbroken := follows.unbroken
  cleared_eq := follows.cleared_eq
  buffer_eq := by
    change session.buffer.append head chunk = _
    rw [follows.buffer_eq, follows.since.append_append plain]
    rfl

/-- A clearing that leaves only an unfinished line in reach starts the next chapter. -/
theorem follows_clear {clearing : Clearing} {after : Buffer}
    (replayed : replayStep head (replay head session.past) (session.written, clearing) = after)
    (since : after.Since head done opened) (unbroken : newline ∉ opened) :
    (session.clear clearing after).Follows head done opened := by
  have next : replay head (session.clear clearing after).past = after := by
    rw [Session.clear, replay, List.foldl_append]
    exact replayed
  refine ⟨?_, unbroken, ?_, ?_⟩
  · rw [next]
    exact since
  · change after.unscanned = done.length
    rw [since.unscanned_eq, lastLineStart_of_not_mem unbroken, Nat.add_zero]
  · rw [next]
    exact (append_nil head after).symm

theorem exists_follows_step (plain : newline ∉ head) (follows : session.Follows head done opened)
    (use : Use) : ∃ done' opened', (session.step head use).Follows head done' opened' := by
  have since := follows.since_buffer plain
  cases use with
  | append chunk => exact ⟨done, opened, follows.append plain chunk⟩
  | forget =>
      refine ⟨_, _, follows_clear ?_ since.forget (newline_not_mem_openLine _)⟩
      rw [replayStep, follows.buffer_eq]
  | remove =>
      cases pending : session.buffer.pending with
      | none =>
          rw [step, remove?_eq_none_iff.mpr pending]
          exact ⟨done, opened, follows⟩
      | some start =>
          obtain ⟨front, body, back, whole, frontEnds, unbroken, rfl⟩ :=
            since.laid.starts start pending
          obtain ⟨shorter, removed, left⟩ := since.remove whole frontEnds unbroken pending
          rw [step, removed]
          refine ⟨_, _, follows_clear ?_ left (newline_not_mem_openLine _)⟩
          rw [replayStep, ← follows.buffer_eq, removed, Option.getD_some]

theorem exists_follows_run (plain : newline ∉ head) (uses : List Use) :
    ∃ done opened, (run head uses).Follows head done opened := by
  induction uses using List.reverseRecOn with
  | nil => exact ⟨[], [], follows_empty head⟩
  | append_singleton uses use inductionHypothesis =>
      obtain ⟨done, opened, follows⟩ := inductionHypothesis
      rw [run, List.foldl_append]
      exact exists_follows_step plain follows use

theorem Follows.pending_eq_some_iff (plain : newline ∉ head)
    (follows : session.Follows head done opened) {start : Nat} :
    session.buffer.pending = some start ↔
      LastWarningFrom head session.buffer.text session.cleared start := by
  have since := follows.since_buffer plain
  rw [since.pending_eq, since.text_eq, follows.cleared_eq]
  constructor
  · exact lastWarningFrom_of_lastWarning? plain since.ends
  · intro chosen
    cases found : lastWarning? head done.length (wholeLines (opened ++ session.written)) with
    | none =>
        exact absurd chosen.warns
          ((lastWarning?_eq_none_iff_from plain since.ends).mp found start chosen.above)
    | some other =>
        have otherChosen := lastWarningFrom_of_lastWarning? plain since.ends found
        rw [Nat.le_antisymm (chosen.last other otherChosen.warns)
          (otherChosen.last start chosen.warns)]

theorem Follows.pending_eq_none_iff (plain : newline ∉ head)
    (follows : session.Follows head done opened) :
    session.buffer.pending = none ↔
      ∀ start, session.cleared ≤ start → ¬ WarningStartsAt head session.buffer.text start := by
  have since := follows.since_buffer plain
  rw [since.pending_eq, since.text_eq, follows.cleared_eq]
  exact lastWarning?_eq_none_iff_from plain since.ends

/-- Removing takes out the line of the pending warning, and nothing else. -/
theorem Follows.exists_of_pending (plain : newline ∉ head)
    (follows : session.Follows head done opened) {start : Nat}
    (pending : session.buffer.pending = some start) :
    ∃ front body back shorter, session.buffer.text = front ++ body ++ newline :: back ∧
      EndsLine front ∧ newline ∉ body ∧ start = front.length ∧
      session.buffer.remove? = some shorter ∧ shorter.text = front ++ back ∧
      shorter.unscanned + (body.length + 1) = session.buffer.unscanned := by
  have since := follows.since_buffer plain
  obtain ⟨front, body, back, whole, frontEnds, unbroken, rfl⟩ := since.laid.starts start pending
  refine ⟨done ++ front, body, back ++ openLine (opened ++ session.written), _, ?_,
    since.ends.append frontEnds, unbroken, by simp,
    since.laid.remove?_eq whole unbroken pending, by simp, ?_⟩
  · calc
      session.buffer.text = done ++ (opened ++ session.written) := since.text_eq
      _ = done ++ (front ++ body ++ newline :: (back ++ openLine (opened ++ session.written))) := by
        rw [← eq_of_wholeLines_eq whole]
      _ = done ++ front ++ body ++ newline :: (back ++ openLine (opened ++ session.written)) := by
        simp
  · rw [since.unscanned_eq, ← length_wholeLines, whole]
    simp only [List.length_append, List.length_cons]
    omega

/-- Whatever was done with a buffer, `unscanned` is just after the last newline of the text,
removing always finds the newline that ends the pending warning and takes out that one line, and the
pending warning is the last one that starts where the last clearing left off or after.  Two sessions
with the same text between the same clearings have the same buffer. -/
theorem search_exact (head : Text) (plain : newline ∉ head) (uses : List Use) :
    ((newline ∉ (run head uses).buffer.text ∧ (run head uses).buffer.unscanned = 0) ∨
      ∃ front back, (run head uses).buffer.text = front ++ newline :: back ∧ newline ∉ back ∧
        (run head uses).buffer.unscanned = front.length + 1) ∧
    (∀ start, (run head uses).buffer.pending = some start ↔
      LastWarningFrom head (run head uses).buffer.text (run head uses).cleared start) ∧
    ((run head uses).buffer.pending = none ↔
      ∀ start, (run head uses).cleared ≤ start →
        ¬ WarningStartsAt head (run head uses).buffer.text start) ∧
    (∀ start, (run head uses).buffer.pending = some start →
      ∃ front body back shorter,
        (run head uses).buffer.text = front ++ body ++ newline :: back ∧
        EndsLine front ∧ newline ∉ body ∧ start = front.length ∧
        (run head uses).buffer.remove? = some shorter ∧ shorter.text = front ++ back ∧
        shorter.unscanned + (body.length + 1) = (run head uses).buffer.unscanned) ∧
    ∀ others, (run head others).past = (run head uses).past →
      (run head others).written = (run head uses).written →
      (run head others).buffer = (run head uses).buffer := by
  obtain ⟨done, opened, follows⟩ := exists_follows_run plain uses
  have since := follows.since_buffer plain
  refine ⟨?_, fun start => follows.pending_eq_some_iff plain, follows.pending_eq_none_iff plain,
    fun start => follows.exists_of_pending plain, ?_⟩
  · have unscanned : (run head uses).buffer.unscanned =
        lastLineStart (run head uses).buffer.text := by
      rw [since.unscanned_eq, since.text_eq, lastLineStart_append since.ends]
    rw [unscanned]
    exact lastLineStart_cases _
  · intro others samePast sameWritten
    obtain ⟨done', opened', follows'⟩ := exists_follows_run plain others
    rw [follows'.buffer_eq, follows.buffer_eq, samePast, sameWritten]

/-- The warning before the clearing is out of reach; the one after it came in two chunks. -/
theorem search_exact_across_chunks :
    newline ∉ ofString "#w" ∧
      (run "#w" [.append "#w a\n", .forget, .append " #", .append "w b\nc"]).buffer =
        ⟨"#w a\n #w b\nc", some 5, 11⟩ ∧
      LastWarningFrom "#w" "#w a\n #w b\nc" 5 5 := by
  have plain : newline ∉ ofString "#w" := by decide
  have used : run "#w" [.append "#w a\n", .forget, .append " #", .append "w b\nc"] =
      ⟨⟨"#w a\n #w b\nc", some 5, 11⟩, 5, [("#w a\n", .forgotten)], " #w b\nc"⟩ := by
    decide +kernel
  obtain ⟨-, pending, -⟩ :=
    search_exact "#w" plain [.append "#w a\n", .forget, .append " #", .append "w b\nc"]
  rw [used] at pending ⊢
  exact ⟨plain, rfl, (pending 5).mp rfl⟩

end Session

end Buffer

end WarningSweep
