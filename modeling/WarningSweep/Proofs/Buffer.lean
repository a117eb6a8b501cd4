import WarningSweep.Buffer
import WarningSweep.Proofs.Text.Warning

/-!
# What the output buffer knows

Between two moments at which it keeps or removes a warning, the buffer only grows.  However the text
written since then was cut into chunks, the pending warning is the last one among its whole lines.
-/

namespace WarningSweep.Buffer

open Text

/-- The buffer holds the lines `done`, which it may not remove any more, and what was written since
their end. -/
structure Since (head done fresh : Text) (buffer : Buffer) : Prop where
  ends : EndsLine done
  text_eq : buffer.text = done ++ fresh
  unscanned_eq : buffer.unscanned = done.length + fresh.lastLineStart
  pending_eq : buffer.pending = lastWarning? head done.length fresh.wholeLines

variable {head done fresh : Text} {buffer : Buffer}

@[simp]
theorem append_text (head : Text) (buffer : Buffer) (chunk : Text) :
    (buffer.append head chunk).text = buffer.text ++ chunk := by
  rw [append]
  split <;> rfl

theorem since_empty (head : Text) : Since head [] [] {} where
  ends := endsLine_nil
  text_eq := rfl
  unscanned_eq := rfl
  pending_eq := by simp [wholeLines]

/-- What holds whatever the head is: the lines `done` are out of reach, every whole line has been
searched, and a warning that is pending starts a whole line after `done`. -/
structure Laid (done fresh : Text) (buffer : Buffer) : Prop where
  ends : EndsLine done
  text_eq : buffer.text = done ++ fresh
  unscanned_eq : buffer.unscanned = done.length + fresh.lastLineStart
  starts : ∀ start ∈ buffer.pending, ∃ front body back,
    wholeLines fresh = front ++ body ++ newline :: back ∧ EndsLine front ∧ newline ∉ body ∧
      start = done.length + front.length

theorem Since.laid (since : buffer.Since head done fresh) : buffer.Laid done fresh where
  ends := since.ends
  text_eq := since.text_eq
  unscanned_eq := since.unscanned_eq
  starts := by
    intro start pending
    rw [since.pending_eq] at pending
    exact exists_line_of_lastWarning? (endsLine_wholeLines fresh) pending

/-- All that writing a chunk does: the lines that it completes are searched, and no others. -/
theorem Laid.append_eq (laid : buffer.Laid done fresh) (head chunk : Text) :
    buffer.append head chunk =
      ⟨done ++ (fresh ++ chunk),
        (lastWarning? head (done.length + (wholeLines fresh).length)
          (wholeLines (openLine fresh ++ chunk))).or buffer.pending,
        done.length + lastLineStart (fresh ++ chunk)⟩ := by
  have text : buffer.text ++ chunk = done ++ (fresh ++ chunk) := by
    rw [laid.text_eq, List.append_assoc]
  have start : lastLineStart (fresh ++ chunk) =
      lastLineStart fresh + lastLineStart (openLine fresh ++ chunk) := by
    have size := congrArg List.length (wholeLines_append_chunk fresh chunk)
    simpa only [List.length_append, length_wholeLines] using size
  have scanned : lastLineStart (buffer.text ++ chunk) =
      done.length + lastLineStart (fresh ++ chunk) := by
    rw [text, lastLineStart_append laid.ends]
  by_cases idle : chunk = [] ∨ lastLineStart (buffer.text ++ chunk) ≤ buffer.unscanned
  · have none : lastLineStart (openLine fresh ++ chunk) = 0 := by
      rcases idle with rfl | below
      · rw [List.append_nil]
        exact lastLineStart_of_not_mem (newline_not_mem_openLine fresh)
      · have := laid.unscanned_eq
        omega
    have nothing : wholeLines (openLine fresh ++ chunk) = [] := by
      rw [wholeLines, none, List.take_zero]
    rw [Buffer.append, if_pos idle, nothing, lastWarning?_nil, Option.none_or, start, none, text,
      laid.unscanned_eq, Nat.add_zero]
  · have lines : ((buffer.text ++ chunk).take (lastLineStart (buffer.text ++ chunk))).drop
        buffer.unscanned = wholeLines (openLine fresh ++ chunk) := by
      have taken : (buffer.text ++ chunk).take (lastLineStart (buffer.text ++ chunk)) =
          done ++ wholeLines fresh ++ wholeLines (openLine fresh ++ chunk) := by
        change wholeLines (buffer.text ++ chunk) = _
        rw [text, wholeLines_append laid.ends, wholeLines_append_chunk, List.append_assoc]
      rw [taken, List.drop_left']
      rw [laid.unscanned_eq, List.length_append, length_wholeLines]
    rw [Buffer.append, if_neg idle]
    simp only [lines]
    rw [scanned, text, laid.unscanned_eq, length_wholeLines]

theorem Since.append (plain : newline ∉ head) (since : buffer.Since head done fresh)
    (chunk : Text) : (buffer.append head chunk).Since head done (fresh ++ chunk) := by
  rw [since.laid.append_eq]
  refine ⟨since.ends, rfl, rfl, ?_⟩
  change (lastWarning? head _ _).or buffer.pending = _
  rw [wholeLines_append_chunk fresh chunk, lastWarning?_append plain (endsLine_wholeLines fresh),
    since.pending_eq]

theorem Laid.append (laid : buffer.Laid done fresh) (head chunk : Text) :
    (buffer.append head chunk).Laid done (fresh ++ chunk) := by
  rw [laid.append_eq]
  refine ⟨laid.ends, rfl, rfl, ?_⟩
  intro start pending
  rcases Option.or_eq_some_iff.mp (Option.mem_def.mp pending) with new | ⟨-, old⟩
  · obtain ⟨front, body, back, whole, frontEnds, unbroken, rfl⟩ :=
      exists_line_of_lastWarning? (endsLine_wholeLines _) new
    refine ⟨wholeLines fresh ++ front, body, back, ?_, (endsLine_wholeLines fresh).append frontEnds,
      unbroken, ?_⟩
    · rw [wholeLines_append_chunk, whole]
      simp
    · rw [List.length_append]
      omega
  · obtain ⟨front, body, back, whole, frontEnds, unbroken, rfl⟩ := laid.starts start old
    refine ⟨front, body, back ++ wholeLines (openLine fresh ++ chunk), ?_, frontEnds, unbroken, rfl⟩
    rw [wholeLines_append_chunk, whole]
    simp

/-- A buffer in which no warning is pending and only an unfinished line is in reach. -/
theorem since_cleared (ends : EndsLine done) {opened : Text} (unbroken : newline ∉ opened)
    (head : Text) : Since head done opened ⟨done ++ opened, none, done.length⟩ where
  ends := ends
  text_eq := rfl
  unscanned_eq := by rw [lastLineStart_of_not_mem unbroken, Nat.add_zero]
  pending_eq := by rw [wholeLines_of_not_mem unbroken, lastWarning?_nil]

theorem Laid.forget_eq (laid : buffer.Laid done fresh) :
    buffer.forget =
      ⟨(done ++ wholeLines fresh) ++ openLine fresh, none, (done ++ wholeLines fresh).length⟩ := by
  rw [Buffer.forget, laid.text_eq, laid.unscanned_eq, List.append_assoc, wholeLines_append_openLine,
    List.length_append, length_wholeLines]

theorem Laid.forget (laid : buffer.Laid done fresh) :
    buffer.forget.Laid (done ++ wholeLines fresh) (openLine fresh) := by
  rw [laid.forget_eq]
  exact (since_cleared (laid.ends.append (endsLine_wholeLines fresh))
    (newline_not_mem_openLine fresh) []).laid

theorem Since.forget (since : buffer.Since head done fresh) :
    buffer.forget.Since head (done ++ wholeLines fresh) (openLine fresh) := by
  rw [since.laid.forget_eq]
  exact since_cleared (since.ends.append (endsLine_wholeLines fresh))
    (newline_not_mem_openLine fresh) head

theorem forget_of_pending_none (none : buffer.pending = none) : buffer.forget = buffer := by
  rw [Buffer.forget, ← none]

theorem remove?_eq_none_iff : buffer.remove? = none ↔ buffer.pending = none := by
  simp [remove?]

theorem exists_pending_of_remove? {shorter : Buffer} (removed : buffer.remove? = some shorter) :
    ∃ start, buffer.pending = some start := by
  rw [← Option.ne_none_iff_exists', Ne, ← remove?_eq_none_iff, removed]
  simp

theorem pending_of_remove? {shorter : Buffer} (removed : buffer.remove? = some shorter) :
    shorter.pending = none := by
  rw [remove?, Option.map_eq_some_iff] at removed
  obtain ⟨start, -, rfl⟩ := removed
  rfl

theorem sublist_of_remove? {shorter : Buffer} (removed : buffer.remove? = some shorter) :
    shorter.text.Sublist buffer.text := by
  rw [remove?, Option.map_eq_some_iff] at removed
  obtain ⟨start, -, rfl⟩ := removed
  have rest : (buffer.text.drop (start + buffer.lineLength start)).Sublist
      (buffer.text.drop start) := by
    rw [← List.drop_drop]
    exact List.drop_sublist _ _
  simpa using (List.Sublist.refl (buffer.text.take start)).append rest

/-- Removing the pending warning takes out the line that starts there. -/
theorem Laid.remove?_eq (laid : buffer.Laid done fresh) {front body back : Text}
    (whole : wholeLines fresh = front ++ body ++ newline :: back) (unbroken : newline ∉ body)
    (pending : buffer.pending = some (done.length + front.length)) :
    buffer.remove? =
      some ⟨(done ++ front ++ back) ++ openLine fresh, none, (done ++ front ++ back).length⟩ := by
  have text : buffer.text = (done ++ front) ++ (body ++ newline :: (back ++ openLine fresh)) := by
    calc
      buffer.text = done ++ fresh := laid.text_eq
      _ = done ++ (front ++ body ++ newline :: (back ++ openLine fresh)) := by
        rw [← eq_of_wholeLines_eq whole]
      _ = (done ++ front) ++ (body ++ newline :: (back ++ openLine fresh)) := by simp
  have start : done.length + front.length = (done ++ front).length := by simp
  have length : buffer.lineLength (done.length + front.length) = body.length + 1 := by
    rw [lineLength, text, start, List.drop_left, takeWhile_unbroken unbroken]
    simp
  have after : buffer.text.drop (done.length + front.length + (body.length + 1)) =
      back ++ openLine fresh := by
    rw [text, start, ← List.drop_drop, List.drop_left, List.append_cons body]
    exact List.drop_left' (by simp)
  have scanned : buffer.unscanned - (body.length + 1) = (done ++ front ++ back).length := by
    rw [laid.unscanned_eq, ← length_wholeLines, whole]
    simp only [List.length_append, List.length_cons]
    omega
  rw [remove?, pending, Option.map_some]
  simp only [length, after, scanned]
  rw [text, start, List.take_left, ← List.append_assoc]

theorem Laid.remove (laid : buffer.Laid done fresh) {shorter : Buffer}
    (removed : buffer.remove? = some shorter) :
    ∃ front body back, wholeLines fresh = front ++ body ++ newline :: back ∧ EndsLine front ∧
      newline ∉ body ∧ shorter.Laid (done ++ front ++ back) (openLine fresh) := by
  obtain ⟨start, pending⟩ := exists_pending_of_remove? removed
  obtain ⟨front, body, back, whole, frontEnds, unbroken, rfl⟩ := laid.starts start pending
  refine ⟨front, body, back, whole, frontEnds, unbroken, ?_⟩
  rw [laid.remove?_eq whole unbroken pending, Option.some.injEq] at removed
  rw [← removed]
  exact (since_cleared ((laid.ends.append frontEnds).append (endsLine_of_wholeLines_eq whole))
    (newline_not_mem_openLine fresh) []).laid

theorem Since.remove (since : buffer.Since head done fresh) {front body back : Text}
    (whole : wholeLines fresh = front ++ body ++ newline :: back) (frontEnds : EndsLine front)
    (unbroken : newline ∉ body) (pending : buffer.pending = some (done.length + front.length)) :
    ∃ shorter, buffer.remove? = some shorter ∧
      shorter.Since head (done ++ front ++ back) (openLine fresh) := by
  refine ⟨_, since.laid.remove?_eq whole unbroken pending, ?_⟩
  exact since_cleared ((since.ends.append frontEnds).append (endsLine_of_wholeLines_eq whole))
    (newline_not_mem_openLine fresh) head

end WarningSweep.Buffer
