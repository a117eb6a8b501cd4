import WarningSweep.Proofs.Text.Blank
import WarningSweep.Proofs.Text.Line

/-!
# Texts that stand inside a line

A text without newlines occurs inside a line or not at all.  Deleting whole lines takes away the
occurrences on these lines and makes no new ones.
-/

namespace WarningSweep.Text

def restOfLine (t : Text) : Nat := (t.takeWhile (· ≠ newline)).length

theorem restOfLine_of_not_mem {t : Text} (unbroken : newline ∉ t) : restOfLine t = t.length := by
  have all := takeWhile_unbroken unbroken []
  simp only [List.append_nil, List.takeWhile_nil] at all
  rw [restOfLine, all]

theorem restOfLine_line {body : Text} (unbroken : newline ∉ body) (rest : Text) :
    restOfLine (body ++ newline :: rest) = body.length := by
  rw [restOfLine, takeWhile_unbroken unbroken]
  simp

def OccursOn (part t : Text) (stop : Nat) : Prop :=
  ∃ front back, t = front ++ part ++ back ∧ stop = front.length + part.length + restOfLine back

theorem occursOn_unfinished {part t : Text} (whole : newline ∉ t) {stop : Nat} :
    OccursOn part t stop ↔ part <:+: t ∧ stop = t.length := by
  constructor
  · rintro ⟨front, back, rfl, rfl⟩
    refine ⟨⟨front, back, rfl⟩, ?_⟩
    rw [restOfLine_of_not_mem fun member => whole (List.mem_append_right _ member)]
    simp only [List.length_append]
  · rintro ⟨⟨front, back, rfl⟩, rfl⟩
    refine ⟨front, back, rfl, ?_⟩
    rw [restOfLine_of_not_mem fun member => whole (List.mem_append_right _ member)]
    simp only [List.length_append]

section

variable {part : Text} (unbroken : newline ∉ part)

include unbroken

/-- An occurrence ends before the newline of the first line or begins after it. -/
theorem occurrence_line {body rest front back : Text}
    (cut : body ++ newline :: rest = front ++ part ++ back) :
    (∃ more, body = front ++ part ++ more ∧ back = more ++ newline :: rest) ∨
      ∃ later, front = body ++ newline :: later ∧ rest = later ++ part ++ back := by
  rcases List.append_eq_append_iff.mp cut with ⟨excess, reach, after⟩ | ⟨more, here, follow⟩
  · rcases excess with _ | ⟨first, excess⟩
    · exact .inl ⟨[], by simpa using reach.symm, by simpa using after.symm⟩
    · obtain ⟨rfl, rfl⟩ := List.cons.inj after
      rcases List.append_eq_append_iff.mp reach with ⟨inside, -, broken⟩ | ⟨beyond, start, remains⟩
      · simp [broken] at unbroken
      · rcases beyond with _ | ⟨first, later⟩
        · obtain rfl : newline :: excess = part := remains
          simp at unbroken
        · obtain ⟨rfl, rfl⟩ := List.cons.inj remains
          exact .inr ⟨later, start, rfl⟩
  · exact .inl ⟨more, here, follow⟩

theorem infix_line_iff {body rest : Text} :
    part <:+: body ++ newline :: rest ↔ part <:+: body ∨ part <:+: rest := by
  constructor
  · rintro ⟨front, back, cut⟩
    rcases occurrence_line unbroken cut.symm with ⟨more, here, -⟩ | ⟨later, -, there⟩
    · exact .inl ⟨front, more, here.symm⟩
    · exact .inr ⟨later, back, there.symm⟩
  · rintro (⟨front, back, rfl⟩ | ⟨front, back, rfl⟩)
    · exact ⟨front, back ++ newline :: rest, by simp⟩
    · exact ⟨body ++ newline :: front, back, by simp⟩

theorem occursOn_line {body rest : Text} (whole : newline ∉ body) {stop : Nat} :
    OccursOn part (body ++ newline :: rest) stop ↔
      (part <:+: body ∧ stop = body.length) ∨
        ∃ later, OccursOn part rest later ∧ stop = body.length + 1 + later := by
  constructor
  · rintro ⟨front, back, cut, rfl⟩
    rcases occurrence_line unbroken cut with ⟨more, rfl, rfl⟩ | ⟨after, rfl, rfl⟩
    · refine .inl ⟨⟨front, more, rfl⟩, ?_⟩
      rw [restOfLine_line fun member => whole (List.mem_append_right _ member)]
      simp only [List.length_append]
    · refine .inr ⟨_, ⟨after, back, rfl, rfl⟩, ?_⟩
      simp only [List.length_append, List.length_cons]
      omega
  · rintro (⟨⟨front, back, rfl⟩, rfl⟩ | ⟨_, ⟨front, back, rfl, rfl⟩, rfl⟩)
    · refine ⟨front, back ++ newline :: rest, by simp, ?_⟩
      rw [restOfLine_line fun member => whole (List.mem_append_right _ member)]
      simp only [List.length_append]
    · refine ⟨body ++ newline :: front, back, by simp, ?_⟩
      simp only [List.length_append, List.length_cons]
      omega

theorem infix_withoutLines_iff {deleted : Finset Nat} {offset : Nat} {t : Text}
    (inside : ∀ stop ∈ deleted, stop < offset + t.length) :
    part <:+: withoutLines deleted offset t ↔
      ∃ stop, OccursOn part t stop ∧ offset + stop ∉ deleted := by
  induction t using line_induction generalizing offset with
  | unfinished t whole =>
      have stays : offset + t.length ∉ deleted := by
        intro member
        have := inside _ member
        omega
      rw [withoutLines_of_not_mem whole]
      simp only [occursOn_unfinished whole, and_assoc, exists_and_left, exists_eq_left, stays,
        not_false_eq_true, and_true]
  | line body t whole inductionHypothesis =>
      have later := @inductionHypothesis (offset + body.length + 1) fun stop member => by
        have := inside stop member
        simp only [List.length_append, List.length_cons] at this
        omega
      have apart : part <:+: withoutLines deleted offset (body ++ newline :: t) ↔
          (part <:+: body ∧ offset + body.length ∉ deleted) ∨
            part <:+: withoutLines deleted (offset + body.length + 1) t := by
        rw [withoutLines_line whole]
        by_cases gone : offset + body.length ∈ deleted
        · simp [gone]
        · rw [if_neg gone, List.append_assoc, List.singleton_append, infix_line_iff unbroken]
          simp [gone]
      rw [apart, later]
      constructor
      · rintro (⟨here, stays⟩ | ⟨stop, there, stays⟩)
        · exact ⟨_, (occursOn_line unbroken whole).mpr (.inl ⟨here, rfl⟩), stays⟩
        · refine ⟨_, (occursOn_line unbroken whole).mpr (.inr ⟨stop, there, rfl⟩), ?_⟩
          rwa [← Nat.add_assoc, ← Nat.add_assoc]
      · rintro ⟨_, occurs, stays⟩
        rcases (occursOn_line unbroken whole).mp occurs with ⟨here, rfl⟩ | ⟨stop, there, rfl⟩
        · exact .inl ⟨here, stays⟩
        · rw [← Nat.add_assoc, ← Nat.add_assoc] at stays
          exact .inr ⟨stop, there, stays⟩

end

/-- A text that cannot stand in a blank line. -/
structure Visible (part : Text) : Prop where
  unbroken : newline ∉ part
  inked : ∃ g ∈ part, isIndent g = false ∧ g ≠ .char '\r'

theorem Visible.not_infix_of_blank {part body : Text} (visible : Visible part)
    (blank : ∀ g ∈ body, isIndent g = true ∨ g = .char '\r') : ¬ part <:+: body := by
  intro within
  obtain ⟨g, member, inked, other⟩ := visible.inked
  rcases blank g (within.subset member) with indents | returns
  · rw [indents] at inked
    cases inked
  · exact other returns

theorem Visible.infix_blankLine_iff {part line : Text} (visible : Visible part)
    (blank : IsBlankLine line) {rest : Text} : part <:+: line ++ rest ↔ part <:+: rest := by
  obtain ⟨body, rfl, -, empty⟩ := blank.exists_body
  rw [List.append_assoc, List.singleton_append, infix_line_iff visible.unbroken,
    or_iff_right (visible.not_infix_of_blank empty)]

theorem Visible.infix_dropBlankLines_iff {part : Text} (visible : Visible part) (t : Text) :
    part <:+: Sweep.dropBlankLines t ↔ part <:+: t := by
  induction t using Sweep.dropBlankLines_induction with
  | settled t unblank same => rw [same]
  | line first rest blank same inductionHypothesis =>
      rw [same, inductionHypothesis, visible.infix_blankLine_iff blank]

end WarningSweep.Text
