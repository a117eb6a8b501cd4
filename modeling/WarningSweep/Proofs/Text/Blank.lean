import Mathlib.Data.List.TakeWhile
import WarningSweep.Sweep

/-!
# Blank texts and blank lines

A blank line is indentation and a line end.  Dropping the blank lines that start a text takes whole
blank lines only, and takes all of them.
-/

namespace WarningSweep

namespace Text

theorem trim_eq_nil_iff {t : Text} : t.trim = [] ↔ ∀ g ∈ t, g.isBlank = true := by
  rw [trim, trimRight, List.reverse_eq_nil_iff, List.dropWhile_eq_nil_iff]
  simp only [List.mem_reverse, trimLeft]
  constructor
  · intro blank g member
    rw [← @List.takeWhile_append_dropWhile _ Glyph.isBlank t, List.mem_append] at member
    rcases member with inFront | inRest
    · exact List.mem_takeWhile_imp inFront
    · exact blank g inRest
  · intro blank g member
    exact blank g ((List.dropWhile_suffix _).subset member)

/-- Spaces and tabs, then a line end, which may hold a carriage return. -/
def IsBlankLine (line : Text) : Prop :=
  ∃ indent, (∀ g ∈ indent, isIndent g = true) ∧
    (line = indent ++ [newline] ∨ line = indent ++ [.char '\r', newline])

def BeginsBlank (t : Text) : Prop := ∃ line, IsBlankLine line ∧ line <+: t

theorem IsBlankLine.length_pos {line : Text} (blank : IsBlankLine line) : 0 < line.length := by
  obtain ⟨indent, -, rfl | rfl⟩ := blank <;> simp

/-- A blank line is a line, and all that it holds is spaces, tabs and a carriage return. -/
theorem IsBlankLine.exists_body {line : Text} (blank : IsBlankLine line) :
    ∃ body, line = body ++ [newline] ∧ newline ∉ body ∧
      ∀ g ∈ body, isIndent g = true ∨ g = .char '\r' := by
  obtain ⟨indent, indents, shape⟩ := blank
  have unbroken : newline ∉ indent := fun member => absurd (indents newline member) (by decide)
  rcases shape with rfl | rfl
  · exact ⟨indent, rfl, unbroken, fun g member => .inl (indents g member)⟩
  · refine ⟨indent ++ [.char '\r'], by simp, by simpa [newline] using unbroken, ?_⟩
    intro g member
    rcases List.mem_append.mp member with inIndent | last
    · exact .inl (indents g inIndent)
    · exact .inr (List.mem_singleton.mp last)

theorem dropWhile_isIndent {indent : Text} (blank : ∀ g ∈ indent, isIndent g = true) {g : Glyph}
    (ends : isIndent g = false) (rest : Text) :
    (indent ++ g :: rest).dropWhile isIndent = g :: rest := by
  rw [List.dropWhile_append_of_pos blank, List.dropWhile_cons_of_neg (by simp [ends])]

end Text

namespace Sweep

open Text

/-- All that one round of dropping does: it takes one blank line, or finds none. -/
theorem dropBlankLines_cases (t : Text) :
    (∃ line rest, IsBlankLine line ∧ t = line ++ rest ∧
      dropBlankLines t = dropBlankLines rest) ∨
    (¬ BeginsBlank t ∧ dropBlankLines t = t) := by
  have indented : ∀ g ∈ t.takeWhile isIndent, isIndent g = true :=
    fun _ member => List.mem_takeWhile_imp member
  have cut : t = t.takeWhile isIndent ++ t.dropWhile isIndent :=
    List.takeWhile_append_dropWhile.symm
  rw [dropBlankLines]
  split
  next rest found =>
    refine .inl ⟨t.takeWhile isIndent ++ [newline], rest, ⟨_, indented, .inl rfl⟩, ?_, rfl⟩
    rw [found] at cut
    simpa [newline] using cut
  next rest found =>
    refine .inl ⟨t.takeWhile isIndent ++ [.char '\r', newline], rest, ⟨_, indented, .inr rfl⟩, ?_,
      rfl⟩
    rw [found] at cut
    simpa [newline] using cut
  next noNewline noReturn =>
    refine .inr ⟨?_, rfl⟩
    rintro ⟨line, ⟨indent, blank, rfl | rfl⟩, ⟨rest, rfl⟩⟩
    · apply noNewline rest
      simpa [newline] using dropWhile_isIndent blank rfl rest
    · apply noReturn rest
      simpa [newline] using dropWhile_isIndent blank rfl (newline :: rest)

/-- The induction that follows the dropping, one blank line at a time. -/
theorem dropBlankLines_induction {motive : Text → Prop}
    (settled : ∀ t, ¬ BeginsBlank t → dropBlankLines t = t → motive t)
    (line : ∀ line rest, IsBlankLine line →
      dropBlankLines (line ++ rest) = dropBlankLines rest → motive rest → motive (line ++ rest))
    (t : Text) : motive t := by
  rcases dropBlankLines_cases t with ⟨first, rest, blank, split, same⟩ | ⟨unblank, same⟩
  · rw [split] at same ⊢
    exact line first rest blank same (dropBlankLines_induction settled line rest)
  · exact settled t unblank same
termination_by t.length
decreasing_by
  have := blank.length_pos
  rw [split, List.length_append]
  omega

theorem exists_blankLines_append (t : Text) :
    ∃ lines : List Text, (∀ line ∈ lines, IsBlankLine line) ∧
      t = lines.flatten ++ dropBlankLines t := by
  induction t using dropBlankLines_induction with
  | settled t unblank same => exact ⟨[], by simp, by simp [same]⟩
  | line first rest blank same inductionHypothesis =>
      obtain ⟨lines, others, split⟩ := inductionHypothesis
      refine ⟨first :: lines, by simpa using ⟨blank, others⟩, ?_⟩
      rw [same, List.flatten_cons, List.append_assoc, ← split]

theorem not_beginsBlank_dropBlankLines (t : Text) : ¬ BeginsBlank (dropBlankLines t) := by
  induction t using dropBlankLines_induction with
  | settled t unblank same =>
      rw [same]
      exact unblank
  | line first rest blank same inductionHypothesis =>
      rw [same]
      exact inductionHypothesis

theorem dropBlankLines_of_not_beginsBlank {t : Text} (unblank : ¬ BeginsBlank t) :
    dropBlankLines t = t := by
  rcases dropBlankLines_cases t with ⟨line, rest, blank, rfl, -⟩ | ⟨-, same⟩
  · exact absurd ⟨line, blank, List.prefix_append _ _⟩ unblank
  · exact same

theorem dropBlankLines_suffix (t : Text) : dropBlankLines t <:+ t := by
  obtain ⟨lines, -, split⟩ := exists_blankLines_append t
  exact ⟨lines.flatten, split.symm⟩

end Sweep

end WarningSweep
