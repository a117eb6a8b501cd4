import WarningSweep.Text.Basic

/-!
# The output buffer

The text written so far, with the offset of the last warning that may still be removed. Only lines
that are complete are searched for warnings: `unscanned` is the start of the first line that has not
been searched yet.
-/

namespace WarningSweep

/-! ## Warning lines

A warning line is a line that holds, after spaces and tabs, the fixed head of the warnings, and that
ends in a newline. The head is any text; when it spans lines itself, so does the warning.
-/

namespace Text

/-- The length of the warning that starts `t` when `indent` glyphs stand before its head. -/
def warningAt? (head : Text) (indent : Nat) (t : Text) : Option Nat :=
  match after? head (t.drop indent) with
  | none => none
  | some rest =>
    if rest.contains newline then
      some (indent + head.length + (rest.takeWhile (· ≠ newline)).length + 1)
    else none

/-- The first answer among `indent`, `indent - 1`, …, `0` glyphs before the head. -/
def warningWithin? (head t : Text) : (indent : Nat) → Option Nat
  | 0 => warningAt? head 0 t
  | indent + 1 =>
    match warningAt? head (indent + 1) t with
    | some length => some length
    | none => warningWithin? head t indent

/-- The length of the warning that starts `t`, a text at the start of a line. -/
def warningLength? (head t : Text) : Option Nat :=
  warningWithin? head t (t.takeWhile isIndent).length

def skipLine (t : Text) : Text := (t.dropWhile (· ≠ newline)).drop 1

theorem length_skipLine_cons_lt (g : Glyph) (t : Text) :
    (skipLine (g :: t)).length < (g :: t).length := by
  have shorter := (List.dropWhile_suffix (l := g :: t) (· ≠ newline)).length_le
  simp only [skipLine, List.length_drop, List.length_cons] at shorter ⊢
  omega

/-- The offset of the last warning of `t`, a text at the start of a line that stands at `offset`.
Warnings are looked for from left to right, each one after the end of the one before. -/
def lastWarning? (head : Text) (offset : Nat) (t : Text) : Option Nat :=
  match t with
  | [] => none
  | g :: rest =>
    match warningLength? head (g :: rest) with
    | some length => (lastWarning? head (offset + length) (rest.drop (length - 1))).or (some offset)
    | none =>
      let line := skipLine (g :: rest)
      lastWarning? head (offset + (rest.length + 1 - line.length)) line
termination_by t.length
decreasing_by
  · simp only [List.length_drop, List.length_cons]
    omega
  · exact length_skipLine_cons_lt g rest

end Text

/-! ## The buffer -/

structure Buffer where
  text : Text := []
  pending : Option Nat := none
  unscanned : Nat := 0
  deriving DecidableEq, Repr, Inhabited

namespace Buffer

def append (head : Text) (buffer : Buffer) (chunk : Text) : Buffer :=
  let text := buffer.text ++ chunk
  let scanned := text.lastLineStart
  if chunk = [] ∨ scanned ≤ buffer.unscanned then { buffer with text }
  else
    let lines := (text.take scanned).drop buffer.unscanned
    { text
      pending := (Text.lastWarning? head buffer.unscanned lines).or buffer.pending
      unscanned := scanned }

/-- Keeps every warning written so far. -/
def forget (buffer : Buffer) : Buffer := { buffer with pending := none }

/-- The length of the line that starts at `start`, with its newline. -/
def lineLength (buffer : Buffer) (start : Nat) : Nat :=
  ((buffer.text.drop start).takeWhile (· ≠ Text.newline)).length + 1

/-- The buffer without the line of the pending warning, if a warning is pending. -/
def remove? (buffer : Buffer) : Option Buffer :=
  buffer.pending.map fun start =>
    let length := buffer.lineLength start
    { text := buffer.text.take start ++ buffer.text.drop (start + length)
      pending := none
      unscanned := buffer.unscanned - length }

end Buffer

end WarningSweep
