import WarningSweep.Text.Encoding
import WarningSweep.Yaml.Cursor

/-!
# Tokens of a document

Collections in block style have no closing character: their ends, and the keys of their maps, are
tokens that follow from the columns.
-/

namespace WarningSweep.Yaml

/-! ## Kinds of tokens -/

inductive Directive where
  | version (major minor : Nat)
  | handle (name target : String)
  | other
  deriving DecidableEq, Repr

inductive Token where
  | streamEnd
  | directive (d : Directive)
  | documentStart
  | documentEnd
  | blockSequenceStart
  | blockMappingStart
  | blockEnd
  | flowSequenceStart
  | flowSequenceEnd
  | flowMappingStart
  | flowMappingEnd
  | blockEntry
  | flowEntry
  | key
  | value
  | alias (name : String)
  | anchor (name : String)
  | tag (handle : Option String) (suffix : String)
  | scalar (text : String) (plain : Bool)
  deriving DecidableEq, Repr, Inhabited

/-! ## Directives, anchors and tags

The tokens whose text is a name: `%` directives, `&` anchors, `*` aliases and `!` tags.
-/

def directiveName (here : Cursor) : Except TokenFault (List Char × Cursor) :=
  let (name, after) := here.span isNameChar
  if name.isEmpty || !isSpaceOrEnd after.peek then after.fail else .ok (name, after)

def decimal (cs : List Char) : Nat := cs.foldl (fun n c => n * 10 + (c.toNat - '0'.toNat)) 0

def directiveNumber (here : Cursor) : Except TokenFault (Nat × Cursor) :=
  let (digits, after) := here.span Char.isDigit
  if digits.isEmpty then here.fail
  else if Value.digitLimit < digits.length then
    .error ⟨here.index, .conversion (.tooManyDigits digits.length)⟩
  else .ok (decimal digits, after)

def versionDirective (here : Cursor) : Except TokenFault (Directive × Cursor) := do
  let (major, dot) ← directiveNumber here.skipSpaces
  if dot.peek ≠ '.' then dot.fail
  let (minor, after) ← directiveNumber dot.next
  if !isSpaceOrEnd after.peek then after.fail
  return (.version major minor, after)

/-- A handle: `!`, or a name between two `!`. -/
def tagHandle (here : Cursor) : Except TokenFault (List Char × Cursor) :=
  if here.peek ≠ '!' then here.fail
  else if here.peekAt 1 = ' ' then .ok (['!'], here.next)
  else
    let (name, after) := here.next.span isNameChar
    if after.peek ≠ '!' then after.fail else .ok ('!' :: name ++ ['!'], after.next)

def isUriChar (c : Char) : Bool := c.isAlphanum || "-;/?:@&=+$,_.!~*'()[]%".toList.contains c

def uriEscapes : (steps : Nat) → Cursor → Except TokenFault (List UInt8 × Cursor)
  | 0, here => .ok ([], here)
  | steps + 1, here =>
    if here.peek ≠ '%' then .ok ([], here)
    else
      let digits := here.next.rest.take 2
      match digits.length, hexNumber? digits with
      | 2, some code => do
        let (more, after) ← uriEscapes steps (here.skip 3)
        return (code.toUInt8 :: more, after)
      | _, _ => here.next.fail

def tagUriFrom : (steps : Nat) → Cursor → Except TokenFault (List Char × Cursor)
  | 0, here => .ok ([], here)
  | steps + 1, here =>
    if here.peek = '%' then do
      let (bytes, after) ← uriEscapes (here.rest.length + 1) here
      match decodeStrict bytes with
      | .error _ => after.fail
      | .ok text =>
        let (more, last) ← tagUriFrom steps after
        return (text.toList ++ more, last)
    else if isUriChar here.peek then do
      let (more, last) ← tagUriFrom steps here.next
      return (here.peek :: more, last)
    else .ok ([], here)

def tagUri (here : Cursor) : Except TokenFault (List Char × Cursor) :=
  if isUriChar here.peek then tagUriFrom (here.rest.length + 1) here else here.fail

def handleDirective (here : Cursor) : Except TokenFault (Directive × Cursor) := do
  let (name, middle) ← tagHandle here.skipSpaces
  if middle.peek ≠ ' ' then middle.fail
  let (target, after) ← tagUri middle.skipSpaces
  if !isSpaceOrEnd after.peek then after.fail
  return (.handle (String.ofList name) (String.ofList target), after)

/-- A directive up to the end of its line; `here` is just after the percent sign. -/
def directive (here : Cursor) : Except TokenFault (Directive × Cursor) := do
  let (name, after) ← directiveName here
  let (found, last) ←
    if name = "YAML".toList then versionDirective after
    else if name = "TAG".toList then handleDirective after
    else pure (Directive.other, after.skipWhile fun c => !isBreak c)
  let last := last.skipSpaces.skipComment
  if !isBreakOrEnd last.peek then last.fail
  return (found, last.skipBreak)

/-- The name of an anchor or alias; `here` is just after its sign. -/
def anchorName (here : Cursor) : Except TokenFault (String × Cursor) :=
  let (name, after) := here.span isNameChar
  if name.isEmpty then here.fail
  else if isBlankOrEnd after.peek || "?:,]\x7d%@`".toList.contains after.peek then
    .ok (String.ofList name, after)
  else after.fail

/-- Whether a `!` follows before the next space: the tag then starts with a handle. -/
def hasHandle (cs : List Char) : Bool := (cs.takeWhile fun c => !isSpaceOrEnd c).contains '!'

def tagToken (here : Cursor) : Except TokenFault (Token × Cursor) := do
  let c := here.peekAt 1
  let (found, after) ←
    if c = '<' then do
      let (uri, after) ← tagUri (here.skip 2)
      if after.peek ≠ '>' then after.fail
      pure (Token.tag none (String.ofList uri), after.next)
    else if isBlankOrEnd c then pure (Token.tag none "!", here.next)
    else do
      let (handle, after) ←
        if hasHandle (here.rest.drop 1) then tagHandle here else pure (['!'], here.next)
      let (suffix, last) ← tagUri after
      pure (Token.tag (some (String.ofList handle)) (String.ofList suffix), last)
  if !isSpaceOrEnd after.peek then after.fail
  return (found, after)

end WarningSweep.Yaml
