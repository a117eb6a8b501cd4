import WarningSweep.Yaml.Cursor

/-!
# Scalars in a document

The texts of plain, quoted and block scalars. Inside a scalar a single line break is folded into a
space and further breaks are kept; a literal block keeps every break. Each step passes at least one
character, so the number of characters left bounds the steps.
-/

namespace WarningSweep.Yaml

/-- A line break followed by others: the first is folded unless it is a separator character. -/
def foldBreaks (first : Char) (others : List Char) : List Char :=
  if first ≠ '\n' then first :: others
  else if others.isEmpty then [' ']
  else others

/-! ## Plain scalars -/

def plainStopsAt (flow : Bool) (c following : Char) : Bool :=
  isBlankOrEnd c
    || (c = ':' && (isBlankOrEnd following ||
      (flow && [',', '[', ']', '\x7b', '\x7d'].contains following)))
    || (flow && [',', '?', '[', ']', '\x7b', '\x7d'].contains c)

/-- The longest run of characters that can stand on one line of a plain scalar without blanks. -/
def plainRun (flow : Bool) : List Char → List Char
  | [] => []
  | c :: rest => if plainStopsAt flow c (rest.headD endMark) then [] else c :: plainRun flow rest

/-- The breaks after the first one between two lines of a plain scalar; `none` when a separator of
documents ends the scalar. -/
def plainBreaks : (steps : Nat) → Cursor → Option (List Char) × Cursor
  | 0, here => (some [], here)
  | steps + 1, here =>
    if here.peek = ' ' then plainBreaks steps here.next
    else
      match here.lineBreak? with
      | none => (some [], here)
      | some (c, after) =>
        if after.atSeparator then (none, after)
        else
          let (more, last) := plainBreaks steps after
          (more.map (c :: ·), last)

structure PlainGap where
  /-- The blanks and folded breaks, if the scalar may go on. -/
  text : Option (List Char)
  crossesLine : Bool
  after : Cursor

def plainGap (here : Cursor) : PlainGap :=
  let (blanks, after) := here.span (· = ' ')
  match after.lineBreak? with
  | none => ⟨some blanks, false, after⟩
  | some (first, line) =>
    if line.atSeparator then ⟨none, true, line⟩
    else
      let (others, last) := plainBreaks line.rest.length line
      ⟨others.map (foldBreaks first), true, last⟩

structure PlainScalar where
  text : List Char
  /-- Whether the scalar was followed by a line break, so that a key may come next. -/
  endsLine : Bool
  after : Cursor

/-- The rest of a plain scalar after `gap`; the lines after the first stand at `indent` or deeper
unless the scalar is inside brackets. -/
def plainFrom (flow : Bool) (indent : Int) : (steps : Nat) → (gap : List Char) → Bool → Cursor →
    PlainScalar
  | 0, _, endsLine, here => ⟨[], endsLine, here⟩
  | steps + 1, gap, endsLine, here =>
    let run := plainRun flow here.rest
    if here.peek = '#' || run.isEmpty then ⟨[], endsLine, here⟩
    else
      let next := plainGap (here.skip run.length)
      let stop (endsLine : Bool) : PlainScalar := ⟨gap ++ run, endsLine, next.after⟩
      match next.text with
      | none => stop true
      | some blanks =>
        if blanks.isEmpty || next.after.peek = '#'
            || (!flow && (next.after.column : Int) < indent) then
          stop next.crossesLine
        else
          let more := plainFrom flow indent steps blanks next.crossesLine next.after
          ⟨gap ++ run ++ more.text, more.endsLine, more.after⟩

def plainScalar (flow : Bool) (indent : Int) (here : Cursor) : PlainScalar :=
  plainFrom flow indent (here.rest.length + 1) [] false here

/-! ## Quoted scalars -/

def quotedBreaks : (steps : Nat) → Cursor → Except TokenFault (List Char × Cursor)
  | 0, here => .ok ([], here)
  | steps + 1, here =>
    if here.atSeparator then here.fail
    else
      let line := here.skipWhile fun c => c = ' ' || c = '\t'
      match line.lineBreak? with
      | none => .ok ([], line)
      | some (c, after) => do
        let (more, last) ← quotedBreaks steps after
        return (c :: more, last)

def simpleEscape? : Char → Option Char
  | '0' => some '\x00'
  | 'a' => some '\x07'
  | 'b' => some '\x08'
  | 't' => some '\t'
  | '\t' => some '\t'
  | 'n' => some '\n'
  | 'v' => some '\x0b'
  | 'f' => some '\x0c'
  | 'r' => some '\r'
  | 'e' => some '\x1b'
  | ' ' => some ' '
  | '"' => some '"'
  | '\\' => some '\\'
  | '/' => some '/'
  | 'N' => some '\u0085'
  | '_' => some '\u00a0'
  | 'L' => some '\u2028'
  | 'P' => some '\u2029'
  | _ => none

def codeEscape? : Char → Option Nat
  | 'x' => some 2
  | 'u' => some 4
  | 'U' => some 8
  | _ => none

/-- A half of a surrogate pair is no character; it is read as the replacement character. -/
def charOfCode (here : Cursor) (code : Nat) : Except TokenFault Char :=
  if 0x110000 ≤ code then .error ⟨here.index, .conversion (.codePoint code)⟩
  else if 0xD800 ≤ code ∧ code < 0xE000 then .ok '\ufffd'
  else .ok (Char.ofNat code)

/-- The characters that an escape stands for; `here` is just after the backslash. -/
def quotedEscape (here : Cursor) : Except TokenFault (List Char × Cursor) :=
  let c := here.peek
  match simpleEscape? c with
  | some meant => .ok ([meant], here.next)
  | none =>
    match codeEscape? c with
    | some width =>
      let digits := here.next.rest.take width
      match hexNumber? digits with
      | none => (here.next.skipWhile fun c => (hexValue? c).isSome).fail
      | some code => do
        if digits.length < width then (here.next.skip digits.length).fail
        let meant ← charOfCode here.next code
        return ([meant], here.next.skip width)
    | none =>
      match here.lineBreak? with
      | some (_, after) => quotedBreaks (after.rest.length + 1) after
      | none => here.fail

/-- The rest of a quoted scalar up to and with its closing quote. -/
def quotedFrom (double : Bool) : (steps : Nat) → Cursor → Except TokenFault (List Char × Cursor)
  | 0, here => here.fail
  | steps + 1, here =>
    let c := here.peek
    let go (meant : List Char) (after : Cursor) : Except TokenFault (List Char × Cursor) := do
      let (more, last) ← quotedFrom double steps after
      return (meant ++ more, last)
    if c = endMark then here.fail
    else if !double && c = '\'' then
      if here.peekAt 1 = '\'' then go ['\''] (here.skip 2) else .ok ([], here.next)
    else if double && c = '"' then .ok ([], here.next)
    else if double && c = '\\' then do
      let (meant, after) ← quotedEscape here.next
      go meant after
    else if isBlankOrEnd c then
      let (blanks, after) := here.span fun c => c = ' ' || c = '\t'
      match after.lineBreak? with
      | none => if after.peek = endMark then after.fail else go blanks after
      | some (first, line) => do
        let (others, last) ← quotedBreaks (line.rest.length + 1) line
        go (foldBreaks first others) last
    else go [c] here.next

def quotedScalar (double : Bool) (here : Cursor) : Except TokenFault (List Char × Cursor) :=
  quotedFrom double (here.rest.length + 1) here

/-! ## Block scalars -/

inductive Chomping where
  | strip
  | clip
  | keep
  deriving DecidableEq, Repr

structure BlockHeader where
  chomping : Chomping := .clip
  /-- How much deeper than its parent the block stands, when that is given. -/
  increment : Option Nat := none
  deriving DecidableEq, Repr

def chompingOf? : Char → Option Chomping
  | '+' => some .keep
  | '-' => some .strip
  | _ => none

/-- The indicators after `|` or `>`, in either order, up to the end of their line. -/
def blockHeader (here : Cursor) : Except TokenFault (BlockHeader × Cursor) := do
  let digit (here : Cursor) : Except TokenFault (Option Nat × Cursor) :=
    if here.peek.isDigit then
      if here.peek = '0' then here.fail
      else .ok (some (here.peek.toNat - '0'.toNat), here.next)
    else .ok (none, here)
  let (header, after) ← match chompingOf? here.peek with
    | some chomping => do
      let (increment, after) ← digit here.next
      pure ((⟨chomping, increment⟩ : BlockHeader), after)
    | none => do
      let (increment, after) ← digit here
      if increment.isNone then pure (({} : BlockHeader), here)
      else
        match chompingOf? after.peek with
        | some chomping => pure (⟨chomping, increment⟩, after.next)
        | none => pure (⟨.clip, increment⟩, after)
  if !isSpaceOrEnd after.peek then after.fail
  let last := after.skipSpaces.skipComment
  if !isBreakOrEnd last.peek then last.fail
  return (header, last.skipBreak)

/-- The blank lines that start a block, and the deepest column that their spaces reach. -/
def blockIndentation : (steps : Nat) → (deepest : Nat) → Cursor → List Char × Nat × Cursor
  | 0, deepest, here => ([], deepest, here)
  | steps + 1, deepest, here =>
    if here.peek = ' ' then blockIndentation steps (max deepest here.next.column) here.next
    else
      match here.lineBreak? with
      | none => ([], deepest, here)
      | some (c, after) =>
        let (more, result) := blockIndentation steps deepest after
        (c :: more, result)

/-- The cursor after the spaces that stand before column `indent`. -/
def skipIndent (indent : Nat) (here : Cursor) : Cursor :=
  here.skip (min (indent - here.column) (here.rest.takeWhile (· = ' ')).length)

/-- The blank lines between two lines of a block that stands at `indent`. -/
def blockBreaks (indent : Nat) : (steps : Nat) → Cursor → List Char × Cursor
  | 0, here => ([], here)
  | steps + 1, here =>
    let line := skipIndent indent here
    match line.lineBreak? with
    | none => ([], line)
    | some (c, after) =>
      let (more, last) := blockBreaks indent steps after
      (c :: more, last)

/-- The lines of a block: its text without the final breaks, the break that ends its last line, the
breaks after that, and the cursor after them. -/
def blockLines (folded : Bool) (indent : Nat) : (steps : Nat) → (breaks : List Char) → Cursor →
    List Char × List Char × List Char × Cursor
  | 0, breaks, here => ([], [], breaks, here)
  | steps + 1, breaks, here =>
    if here.column ≠ indent || here.peek = endMark then ([], [], breaks, here)
    else
      let blankStart (c : Char) : Bool := c = ' ' || c = '\t'
      let (line, lineEnd) := here.span fun c => !isBreak c
      let (lineBreak, start) := match lineEnd.lineBreak? with
        | some (c, after) => ([c], after)
        | none => ([], lineEnd)
      let (next, after) := blockBreaks indent (start.rest.length + 1) start
      if after.column = indent && after.peek ≠ endMark then
        let joint :=
          if folded && lineBreak = ['\n'] && !blankStart here.peek && !blankStart after.peek then
            if next.isEmpty then [' '] else []
          else lineBreak
        let (text, result) := blockLines folded indent steps next after
        (breaks ++ line ++ joint ++ text, result)
      else (breaks ++ line, lineBreak, next, after)

/-- A block scalar inside nodes at `parent`; `here` is just after its `|` or `>`. -/
def blockScalar (folded : Bool) (parent : Int) (here : Cursor) :
    Except TokenFault (List Char × Cursor) := do
  let (header, start) ← blockHeader here
  let least := (max (parent + 1) 1).toNat
  let (breaks, indent, first) := match header.increment with
    | none =>
      let (breaks, deepest, first) := blockIndentation (start.rest.length + 1) 0 start
      (breaks, max least deepest, first)
    | some increment =>
      let indent := least + increment - 1
      let (breaks, first) := blockBreaks indent (start.rest.length + 1) start
      (breaks, indent, first)
  let (text, lineBreak, final, after) :=
    blockLines folded indent (first.rest.length + 1) breaks first
  return match header.chomping with
    | .strip => (text, after)
    | .clip => (text ++ lineBreak, after)
    | .keep => (text ++ lineBreak ++ final, after)

end WarningSweep.Yaml
