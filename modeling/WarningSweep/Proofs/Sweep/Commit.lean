import WarningSweep.Proofs.Sweep.Descent
import WarningSweep.Proofs.Sweep.Loss

/-!
# What the end of a region settles

Where a region has been read no warning is pending, so all whole lines that the buffer holds then
are out of reach: whatever is written and removed later comes after them.  They start the text that
the sweep leaves, and so do the warnings among them.
-/

namespace WarningSweep

open Mark Text

namespace Buffer

/-- The buffer starts with these lines, and nothing of them can be removed any more. -/
def Commits (lines : Text) (buffer : Buffer) : Prop :=
  ∃ more fresh, buffer.Laid (lines ++ more) fresh

variable {lines : Text} {buffer : Buffer}

theorem Commits.isPrefix (commits : buffer.Commits lines) : lines <+: buffer.text := by
  obtain ⟨more, fresh, laid⟩ := commits
  rw [laid.text_eq, List.append_assoc]
  exact List.prefix_append _ _

theorem Commits.append (commits : buffer.Commits lines) (head chunk : Text) :
    (buffer.append head chunk).Commits lines := by
  obtain ⟨more, fresh, laid⟩ := commits
  exact ⟨more, _, laid.append head chunk⟩

theorem Commits.forget (commits : buffer.Commits lines) : buffer.forget.Commits lines := by
  obtain ⟨more, fresh, laid⟩ := commits
  refine ⟨more ++ wholeLines fresh, openLine fresh, ?_⟩
  rw [← List.append_assoc]
  exact laid.forget

theorem Commits.remove (commits : buffer.Commits lines) {shorter : Buffer}
    (removed : buffer.remove? = some shorter) : shorter.Commits lines := by
  obtain ⟨more, fresh, laid⟩ := commits
  obtain ⟨front, body, back, -, -, -, left⟩ := laid.remove removed
  refine ⟨more ++ front ++ back, openLine fresh, ?_⟩
  rwa [List.append_assoc lines, List.append_assoc lines] at left

theorem Laid.commits {done fresh : Text} (laid : buffer.Laid done fresh)
    (clear : buffer.pending = none) : buffer.Commits (wholeLines buffer.text) := by
  refine ⟨[], openLine fresh, ?_⟩
  rw [laid.text_eq, wholeLines_append laid.ends, List.append_nil, ← forget_of_pending_none clear]
  exact laid.forget

end Buffer

/-- A warning among the whole lines of a text stands wherever these lines start a text. -/
theorem Text.WarningEndsAt.of_wholeLines_isPrefix {head first second : Text} {stop : Nat}
    (warns : WarningEndsAt head first stop) (within : wholeLines first <+: second) :
    WarningEndsAt head second stop := by
  obtain ⟨rest, rfl⟩ := within
  have whole := warningEndsAt_wholeLines.mpr warns
  exact (warningEndsAt_append_left whole.lt_length rest).mpr whole

namespace Sweep

variable {sweep : Sweep} {lines : Text} {state : State}

theorem commits_enter (commits : state.buffer.Commits lines) (before : Text) :
    (sweep.enter state before).buffer.Commits lines :=
  commits.forget.append _ _

theorem commits_leave (commits : state.buffer.Commits lines) (content : Text) :
    (sweep.leave state content).buffer.Commits lines := by
  have appended := commits.append sweep.warningHead content
  obtain ⟨-, -, ⟨-, buffer, -⟩ | ⟨-, -, buffer, -⟩ | ⟨-, removed, -⟩⟩ :=
    leave_cases sweep state content
  · rw [buffer]
    exact appended.forget
  · rw [buffer]
    exact appended
  · exact appended.remove removed

theorem commits_foldl (commits : state.buffer.Commits lines) (pieces : List Piece) :
    (pieces.foldl sweep.step state).buffer.Commits lines := by
  induction pieces generalizing state with
  | nil => exact commits
  | cons piece pieces inductionHypothesis =>
      rw [List.foldl_cons, step]
      cases piece.mark with
      | start => exact inductionHypothesis (commits_enter commits piece.before)
      | stop => exact inductionHypothesis (commits_leave commits piece.before)

/-- After any pieces the whole lines of the buffer are committed, unless a warning is pending. -/
theorem commits_walk (pieces : List Piece) (clear : (sweep.walk pieces).buffer.pending = none) :
    (sweep.walk pieces).buffer.Commits (wholeLines (sweep.walk pieces).buffer.text) := by
  obtain ⟨base, deleted, loses⟩ := sweep.exists_loses_walk pieces
  exact loses.reflects.laid.commits clear

/-- Let a region be read to its end, from the place after its START or from a later one in it.  Then
no warning is pending, and the reading has come further, but not beyond the text: it stands after
the END, in the state of the walk over the pieces up to there.  The whole lines of its buffer, the
warnings among them included, start the buffer at every later place, inside any regions, and the
text that the sweep leaves if it succeeds. -/
theorem region_end_commits (sweep : Sweep) {t : Text} {start : Nat} {outer : List Nat}
    {entered left : Place} (arrives : sweep.Arrives t (start :: outer) entered)
    (crosses : sweep.Crosses (outer.length + 1) entered left) :
    left.state.buffer.pending = none ∧
    entered.offset < left.offset ∧ left.offset ≤ t.length ∧
    (∃ read closing unread, (sweep.markers.pieces t).1 = read ++ closing :: unread ∧
      closing.mark = .stop ∧ left.offset = closing.offset + sweep.markers.stop.length ∧
      left.state = sweep.walk (read ++ [closing])) ∧
    (∀ opened later, sweep.Arrives t opened later → left.offset ≤ later.offset →
      wholeLines left.state.buffer.text <+: later.state.buffer.text ∧
      ∀ stop, WarningEndsAt sweep.warningHead left.state.buffer.text stop →
        WarningEndsAt sweep.warningHead later.state.buffer.text stop) ∧
    ∀ outcome, sweep.run t = .ok outcome →
      outcome.text = dropBlankLines
        (sweep.leftover (sweep.markers.pieces t).1 (sweep.markers.pieces t).2) ∧
      wholeLines left.state.buffer.text <+:
        sweep.leftover (sweep.markers.pieces t).1 (sweep.markers.pieces t).2 ∧
      ∀ stop, WarningEndsAt sweep.warningHead left.state.buffer.text stop →
        WarningEndsAt sweep.warningHead
          (sweep.leftover (sweep.markers.pieces t).1 (sweep.markers.pieces t).2) stop := by
  have clear := crosses.pending_eq_none
  obtain ⟨⟨before, reading⟩, -⟩ := arrives.exists_passes
  obtain ⟨inner, closing, stops, crossing⟩ := crosses.exists_passes rfl
  have read := reading.trans crossing
  rw [← List.append_assoc] at read
  obtain ⟨split, walked, within⟩ := read.pieces_eq
  have reached : left.offset = closing.offset + sweep.markers.stop.length := by
    rw [read.offset_eq, List.getLast?_concat, Option.map_some, Option.getD_some, Piece.past, stops]
    rfl
  have commits : left.state.buffer.Commits (wholeLines left.state.buffer.text) := by
    rw [walked] at clear ⊢
    exact commits_walk _ clear
  refine ⟨clear, crossing.offset_bounds.1 (by simp), within,
    ⟨before ++ inner, closing, _, split.trans (List.append_assoc _ _ _), stops, reached, walked⟩,
    ?_, ?_⟩
  · intro opened later arrivesLater further
    obtain ⟨⟨pieces, readLater⟩, -⟩ := arrivesLater.exists_passes
    obtain ⟨between, passes⟩ := read.exists_passes_between readLater further
    have stays : wholeLines left.state.buffer.text <+: later.state.buffer.text := by
      rw [passes.state_eq]
      exact (commits_foldl commits between).isPrefix
    exact ⟨stays, fun stop warns => warns.of_wholeLines_isPrefix stays⟩
  · intro outcome swept
    have stays : wholeLines left.state.buffer.text <+:
        sweep.leftover (sweep.markers.pieces t).1 (sweep.markers.pieces t).2 := by
      rw [leftover, split, walk, List.foldl_append, ← walk, ← walked]
      exact ((commits_foldl commits _).append _ _).isPrefix
    exact ⟨(run_eq_ok_iff.mp swept).2.1, stays,
      fun stop warns => warns.of_wholeLines_isPrefix stays⟩

/-- The warning before the outer region stays, although the region inside and the one after it need
no warning. -/
theorem region_end_commits_of_nested :
    let sweep : Sweep := ⟨⟨"<", ">", by decide, by decide, by decide⟩, "#w", {}, 900⟩
    ∃ entered left, sweep.Arrives "#w a\nf(<g(<\"b\">)>)\n<\"c\">" [7] entered ∧
      sweep.Crosses 1 entered left ∧ entered.offset = 8 ∧ left.offset = 17 ∧
      left.state.buffer = ⟨"#w a\nf(g(\"b\")", none, 5⟩ ∧
      sweep.run "#w a\nf(<g(<\"b\">)>)\n<\"c\">" = .ok ⟨"#w a\nf(g(\"b\"))\n\"c\"", ⟨3, 1, 0⟩⟩ ∧
      WarningEndsAt "#w" (sweep.leftover
        (sweep.markers.pieces "#w a\nf(<g(<\"b\">)>)\n<\"c\">").1
        (sweep.markers.pieces "#w a\nf(<g(<\"b\">)>)\n<\"c\">").2) 4 := by
  intro sweep
  let t : Text := "#w a\nf(<g(<\"b\">)>)\n<\"c\">"
  let entered := (Place.outset t).enter sweep false "#w a\nf(" "g(<\"b\">)>)\n<\"c\">"
  let inner := entered.enter sweep true "g(" "\"b\">)>)\n<\"c\">"
  let between := inner.leave sweep "\"b\"" ")>)\n<\"c\">"
  let left := between.leave sweep ")" ")\n<\"c\">"
  have outside : sweep.markers.next? false t =
      some (ofString "#w a\nf(", Mark.start, ofString "g(<\"b\">)>)\n<\"c\">") := by
    decide +kernel
  have arrives : sweep.Arrives t [7] entered :=
    .enter .outset (fun nested => absurd rfl nested) (Nat.zero_le _) outside
  have crosses : sweep.Crosses 1 entered left :=
    .enter (Text.occurs_iff.mp (by decide +kernel)) (by decide) (by decide +kernel)
      (.leave (by decide +kernel)) (.leave (by decide +kernel))
  have swept : sweep.run t = .ok ⟨"#w a\nf(g(\"b\"))\n\"c\"", ⟨3, 1, 0⟩⟩ := by decide +kernel
  have written : left.state.buffer = ⟨"#w a\nf(g(\"b\")", none, 5⟩ := by decide +kernel
  obtain ⟨-, -, -, -, -, final⟩ := region_end_commits sweep arrives crosses
  obtain ⟨-, -, stays⟩ := final _ swept
  refine ⟨entered, left, arrives, crosses, rfl, rfl, written, swept, stays 4 ?_⟩
  rw [written]
  decide +kernel

end Sweep

end WarningSweep
