import WarningSweep.Text.Encoding

/-!
# Reading a file in portions

A file can be read in portions of so many characters. Its bytes are decoded block by block, as many
blocks as a portion needs. An ill-formed sequence is reported by its place in its block, counted
from the bytes that the block before has left over, and what was decoded for the same portion is
lost with it.
-/

namespace WarningSweep

structure PartRead where
  /-- The bytes that have not been read. -/
  rest : Bytes
  /-- The start of a sequence that the last block has cut off. -/
  left : Bytes := []
  /-- Whether the last block ends with a carriage return, to which a line feed may belong. -/
  held : Bool := false
  /-- Characters that have been decoded and not yet given out. -/
  ready : List Char := []
  /-- How many bytes and how many characters the last block had. -/
  size : Nat × Nat := (0, 0)

namespace PartRead

def blockSize : Nat := 8192

/-- How many bytes are read for so many characters, judged by the block before. -/
def wanted (file : PartRead) (count : Nat) : Nat :=
  let (bytes, chars) := file.size
  max blockSize (if chars < bytes && chars ≠ 0 then count * bytes / chars else count)

/-- Decodes one more block for so many characters; at the end of the file nothing changes any
more. -/
def nextBlock (file : PartRead) (count : Nat) : Except DecodeFault (PartRead × Bool) := do
  let block := file.rest.take (file.wanted count)
  let atEnd := block.isEmpty
  let bytes := file.left ++ block
  let (cs, left) ← match decodeUntil 0 0 bytes with
    | (cs, none) => pure (cs, [])
    | (cs, some fault) =>
      if fault.reason = .unexpectedEnd && !atEnd then pure (cs, bytes.drop fault.start)
      else throw fault
  let cs := if file.held then '\r' :: cs else cs
  let held := !atEnd && cs.getLast? = some '\r'
  let chars := unifyLineEnds (if held then cs.dropLast else cs)
  return ({ rest := file.rest.drop block.length
            left
            held
            ready := file.ready ++ chars
            size := (block.length, chars.length) }, atEnd && chars.isEmpty)

/-- So many characters of the file, or all that are left of it. Every block but the last two has
bytes, so the bytes bound the steps. -/
def take (count : Nat) : (steps : Nat) → PartRead → Except DecodeFault (List Char × PartRead)
  | 0, file => .ok (file.ready.take count, { file with ready := file.ready.drop count })
  | steps + 1, file =>
    if count ≤ file.ready.length then
      .ok (file.ready.take count, { file with ready := file.ready.drop count })
    else do
      let (file, atEnd) ← file.nextBlock (count - file.ready.length)
      if atEnd then return (file.ready, { file with ready := [] }) else take count steps file

/-- The portions of a file up to its end or to an ill-formed sequence. -/
def portions (count : Nat) : (steps : Nat) → PartRead → List (List Char) × Option DecodeFault
  | 0, _ => ([], none)
  | steps + 1, file =>
    match take count (file.rest.length + 3) file with
    | .error fault => ([], some fault)
    | .ok ([], _) => ([], none)
    | .ok (portion, file) =>
      let (more, fault) := portions count steps file
      (portion :: more, fault)

end PartRead

/-- The portions of so many characters in which a file is read, and the ill-formed sequence that
ends them. -/
def portionsOf (count : Nat) (bytes : Bytes) : List (List Char) × Option DecodeFault :=
  PartRead.portions count (bytes.length + 2) { rest := bytes }

end WarningSweep
