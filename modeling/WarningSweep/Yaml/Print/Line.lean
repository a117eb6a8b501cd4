import WarningSweep.Yaml.Tag

/-!
# Writing scalars

A scalar is written in the plainest style that reads back as itself, folded into lines.
-/

namespace WarningSweep.Yaml

/-! ## Styles of written scalars

A scalar is written plain when nothing in it could be taken for something else, between single
quotes when it has no character that needs an escape, and between double quotes otherwise.
-/

inductive Style where
  | plain
  | single
  | double
  | literal
  deriving DecidableEq, Repr

structure Analysis where
  multiline : Bool
  plainAllowed : Bool
  singleAllowed : Bool
  literalAllowed : Bool
  deriving DecidableEq, Repr

/-- Characters that are read back as they are outside double quotes. -/
def isOrdinary (c : Char) : Bool :=
  let n := c.toNat
  c = '\n' || (0x20 ≤ n && n ≤ 0x7E)
    || ((n = 0x85 || (0xA0 ≤ n && n ≤ 0xD7FF) || (0xE000 ≤ n && n ≤ 0xFFFD)
      || (0x10000 ≤ n && n < 0x10FFFF)) && n ≠ 0xFEFF)

/-- A character at the start of a text that would start something else than a plain scalar. -/
def startsOther (c : Char) (blankNext : Bool) : Bool :=
  "#,[]\x7b\x7d&*!|>'\"%@`".toList.contains c || ((c = '?' || c = ':' || c = '-') && blankNext)

/-- Whether a colon before a blank or a number sign after one occurs in a text after `before`. -/
def hidesOther (before : Char) : List Char → Bool
  | [] => false
  | c :: rest =>
    (c = ':' && isBlankOrEnd (rest.headD endMark)) || (c = '#' && isBlankOrEnd before)
      || hidesOther c rest

/-- Whether a character of the first kind is directly followed by one of the second. -/
def hasPair (first second : Char → Bool) : List Char → Bool
  | a :: b :: rest => (first a && second b) || hasPair first second (b :: rest)
  | _ => false

def analyse (text : List Char) : Analysis :=
  match text with
  | [] => ⟨false, true, true, false⟩
  | c :: rest =>
    let isSpace (c : Char) : Bool := c = ' '
    let last := text.getLast?.getD c
    let special := !text.all isOrdinary
    let spaceBreak := hasPair isSpace isBreak text
    let breakSpace := hasPair isBreak isSpace text
    let multiline := text.any isBreak
    let edge (c : Char) : Bool := isSpace c || isBreak c
    let blankNext := isBlankOrEnd (rest.headD endMark)
    let separator := text.take 3 = ['-', '-', '-'] || text.take 3 = ['.', '.', '.']
    { multiline
      plainAllowed := !(edge c || edge last || special || spaceBreak || breakSpace || multiline
        || separator || startsOther c blankNext || hidesOther c rest)
      singleAllowed := !(special || spaceBreak || breakSpace)
      literalAllowed := !(isSpace last || special || spaceBreak) }

/-- The style of a text that reads back as a string only if it is quoted, unless `looksRight`. With
`asBlock` a block is asked for, and double quotes stand in where there can be none. -/
def chooseStyle (looksRight isKey asBlock : Bool) (text : List Char) : Style :=
  let a := analyse text
  if !asBlock && looksRight && !(isKey && (text.isEmpty || a.multiline)) &&
    a.plainAllowed then .plain
  else if asBlock && !isKey && a.literalAllowed then .literal
  else if !asBlock && a.singleAllowed && !(isKey && a.multiline) then .single
  else .double

/-! ## Writing lines

The text written so far with the column it ends at. Scalars are folded at a space once a line is
longer than 80 characters.
-/

structure Page where
  /-- The characters written, the last one first. -/
  written : List Char := []
  column : Nat := 0
  /-- Whether a blank was written last, so that none is needed. -/
  blank : Bool := true
  /-- Whether nothing but indentation and indicators stand on the line. -/
  fresh : Bool := true
  deriving Repr

namespace Page

def bestWidth : Nat := 80

def text (p : Page) : String := String.ofList p.written.reverse

def put (p : Page) (cs : List Char) : Page :=
  { p with written := cs.reverse ++ p.written, column := p.column + cs.length }

def indicator (p : Page) (cs : List Char) (spaced blank fresh : Bool) : Page :=
  { p.put (if p.blank || !spaced then cs else ' ' :: cs) with blank, fresh := p.fresh && fresh }

def lineBreak (p : Page) (c : Char) : Page :=
  { written := c :: p.written, column := 0, blank := true, fresh := true }

/-- Goes to column `indent` of a line on which nothing else stands. -/
def toIndent (p : Page) (indent : Nat) : Page :=
  let p :=
    if !p.fresh || indent < p.column || (p.column = indent && !p.blank) then p.lineBreak '\n' else p
  if p.column < indent then
    { p.put (List.replicate (indent - p.column) ' ') with blank := true }
  else p

/-- The maximal runs of spaces, of line breaks and of other characters. -/
def runs : List Char → List (List Char)
  | [] => []
  | c :: rest =>
    let kind (c : Char) : Nat := if c = ' ' then 0 else if isBreak c then 1 else 2
    match runs rest with
    | (d :: run) :: more =>
        if kind c = kind d then (c :: d :: run) :: more else [c] :: (d :: run) :: more
    | other => [c] :: other

def plainRuns (indent : Nat) (split : Bool) (p : Page) : List (List Char) → Page
  | [] => p
  | run :: rest =>
    let p :=
      if run = [' '] && bestWidth < p.column && split then
        { p.toIndent indent with blank := false, fresh := false }
      else p.put run
    plainRuns indent split p rest

def plain (p : Page) (indent : Nat) (split : Bool) (text : List Char) : Page :=
  if text.isEmpty then p
  else
    let p := if p.blank then p else p.put [' ']
    plainRuns indent split { p with blank := false, fresh := false } (runs text)

def doubleQuotes (run : List Char) : List Char :=
  run.flatMap fun c => if c = '\'' then ['\'', '\''] else [c]

def singleRuns (indent : Nat) (split first : Bool) (p : Page) : List (List Char) → Page
  | [] => p
  | run :: rest =>
    let p :=
      if run = [' '] && bestWidth < p.column && split && !first && !rest.isEmpty then
        p.toIndent indent
      else if run.any isBreak then
        let p := if run.head? = some '\n' then p.lineBreak '\n' else p
        (run.foldl lineBreak p).toIndent indent
      else p.put (doubleQuotes run)
    singleRuns indent split false p rest

def single (p : Page) (indent : Nat) (split : Bool) (text : List Char) : Page :=
  (singleRuns indent split true (p.indicator ['\''] true false false) (runs text)).indicator ['\'']
    false false false

def upperHex : (width n : Nat) → List Char
  | 0, _ => []
  | width + 1, n => upperHex width (n / 16) ++ [(Nat.digitChar (n % 16)).toUpper]

def escapeLetter? : Char → Option Char
  | '\x00' => some '0'
  | '\x07' => some 'a'
  | '\x08' => some 'b'
  | '\t' => some 't'
  | '\n' => some 'n'
  | '\x0b' => some 'v'
  | '\x0c' => some 'f'
  | '\r' => some 'r'
  | '\x1b' => some 'e'
  | '"' => some '"'
  | '\\' => some '\\'
  | '\u0085' => some 'N'
  | '\u00a0' => some '_'
  | '\u2028' => some 'L'
  | '\u2029' => some 'P'
  | _ => none

def needsEscape (c : Char) : Bool :=
  let n := c.toNat
  ['"', '\\', '\u0085', '\u2028', '\u2029', '\ufeff'].contains c
    || !((0x20 ≤ n && n ≤ 0x7E) || (0xA0 ≤ n && n ≤ 0xD7FF) || (0xE000 ≤ n && n ≤ 0xFFFD))

def escapeChar (c : Char) : List Char :=
  match escapeLetter? c with
  | some letter => ['\\', letter]
  | none =>
    let n := c.toNat
    if n ≤ 0xFF then '\\' :: 'x' :: upperHex 2 n
    else if n ≤ 0xFFFF then '\\' :: 'u' :: upperHex 4 n
    else '\\' :: 'U' :: upperHex 8 n

/-- Writes on inside double quotes; `pending` holds characters to be written as they are, and
`index` is the place of the next one in a text of `length`. A line may be broken after a
backslash. -/
def doubleFrom (indent : Nat) (split : Bool) (length : Nat) (p : Page) (pending : List Char)
    (index : Nat) : List Char → Page
  | [] => p.put pending
  | c :: rest =>
    let escaped := needsEscape c
    let p := if escaped then (p.put pending).put (escapeChar c) else p
    let pending := if escaped then [] else pending
    let width : Int := (p.column : Int) + (if escaped then (-1 : Int) else pending.length)
    if 0 < index && index + 1 < length && (c = ' ' || escaped || pending.isEmpty)
        && (bestWidth : Int) < width && split then
      let p := { (p.put (pending ++ ['\\'])).toIndent indent with blank := false, fresh := false }
      let next := if escaped then rest.headD ' ' else c
      let p := if next = ' ' then p.put ['\\'] else p
      doubleFrom indent split length p (if escaped then [] else [c]) (index + 1) rest
    else doubleFrom indent split length p (if escaped then [] else pending ++ [c]) (index + 1) rest

def double (p : Page) (indent : Nat) (split : Bool) (text : List Char) : Page :=
  (doubleFrom indent split text.length (p.indicator ['"'] true false false) [] 0
    text).indicator ['"']
    false false false

/-- The hints after `|`: a depth when the text starts blank, and what its final breaks mean. -/
def literalHints (text : List Char) : List Char :=
  let starts := match text.head? with
    | some c => if c = ' ' || isBreak c then ['2'] else []
    | none => []
  let ends := match text.reverse with
    | [] => []
    | [c] => if isBreak c then ['+'] else ['-']
    | c :: d :: _ => if !isBreak c then ['-'] else if isBreak d then ['+'] else []
  starts ++ ends

def literalRuns (indent : Nat) (p : Page) : List (List Char) → Page
  | [] => p
  | run :: rest =>
    let p :=
      if run.any isBreak then run.foldl lineBreak p
      else (if p.column = 0 then p.toIndent indent else p).put run
    literalRuns indent p rest

def literal (p : Page) (indent : Nat) (text : List Char) : Page :=
  literalRuns indent ((p.indicator ('|' :: literalHints text) true false false).lineBreak '\n')
    (runs text)

end Page

end WarningSweep.Yaml
