import WarningSweep.Yaml.Token.Basic
import WarningSweep.Yaml.Token.Scalar

/-!
# Reading tokens

A token that turns out to be the key of a map is known as such only at the colon after it, so tokens
wait in a queue while they may still be a key. A fault therefore hides the tokens that wait when it
is met, and only those.
-/

namespace WarningSweep.Yaml

/-- A token that may turn out to be a key. A key on the column of its block is required: nothing
else can stand there. -/
structure Candidate where
  number : Nat
  required : Bool
  index : Nat
  line : Nat
  column : Nat
  deriving DecidableEq, Repr

structure Scan where
  here : Cursor
  /-- How many brackets are open. -/
  depth : Nat := 0
  /-- Tokens given out, the last one first. -/
  given : List Token := []
  /-- Tokens that wait, the first one first. -/
  queue : List Token := []
  /-- The column of the innermost block, and those of the blocks around it. -/
  indent : Int := -1
  outer : List Int := []
  keyAllowed : Bool := true
  /-- The candidate at each depth of brackets. -/
  candidates : List (Nat × Candidate) := []
  done : Bool := false
  /-- The index from which on the document cannot be read, and why. -/
  barrier : Option (Nat × Fault) := none
  deriving Repr

namespace Scan

def inFlow (s : Scan) : Bool := s.depth ≠ 0

def nextNumber (s : Scan) : Nat := s.given.length + s.queue.length

def push (s : Scan) (token : Token) : Scan := { s with queue := s.queue ++ [token] }

def emit (s : Scan) (token : Token) (after : Cursor) : Scan :=
  { s with queue := s.queue ++ [token], here := after }

/-- Drops the candidates that the cursor has left behind: a key is on one line and not longer than
1024 characters. -/
def dropStale (s : Scan) : Except TokenFault Scan :=
  let stale (c : Candidate) : Bool := c.line ≠ s.here.line || 1024 < s.here.index - c.index
  if s.candidates.any fun entry => stale entry.2 && entry.2.required then s.here.fail
  else .ok { s with candidates := s.candidates.filter fun entry => !stale entry.2 }

def dropCandidate (s : Scan) : Except TokenFault Scan :=
  if s.candidates.any fun entry => entry.1 = s.depth && entry.2.required then s.here.fail
  else .ok { s with candidates := s.candidates.filter fun entry => entry.1 ≠ s.depth }

def saveCandidate (s : Scan) : Except TokenFault Scan :=
  if s.keyAllowed then do
    let s ← s.dropCandidate
    let candidate : Candidate :=
      { number := s.nextNumber
        required := !s.inFlow && s.indent = (s.here.column : Int)
        index := s.here.index
        line := s.here.line
        column := s.here.column }
    return { s with candidates := (s.depth, candidate) :: s.candidates }
  else .ok s

def unwindFrom (column : Int) (s : Scan) : (outer : List Int) → Scan
  | [] => s
  | parent :: outer =>
    if column < s.indent then
      unwindFrom column { s.push .blockEnd with indent := parent, outer := outer } outer
    else s

def unwind (s : Scan) (column : Int) : Scan := if s.inFlow then s else unwindFrom column s s.outer

/-- Starts a block at `column` if it is deeper than the innermost one. -/
def openBlock (s : Scan) (column : Nat) : Option Scan :=
  if s.indent < (column : Int) then
    some { s with indent := column, outer := s.indent :: s.outer }
  else none

/-- Starts a block at the cursor, where one is needed, with its token. -/
def openBlockHere (s : Scan) (token : Token) : Scan :=
  match s.openBlock s.here.column with
  | some s => s.push token
  | none => s

/-- Skips spaces, comments and line breaks up to the next token. After a line break a key may stand
again, unless brackets are open. -/
def toNextToken : (steps : Nat) → Scan → Scan
  | 0, s => s
  | steps + 1, s =>
    let line := s.here.skipSpaces.skipComment
    match line.lineBreak? with
    | none => { s with here := line }
    | some (_, after) =>
      toNextToken steps { s with here := after, keyAllowed := s.keyAllowed || !s.inFlow }

def fetchStreamEnd (s : Scan) : Except TokenFault Scan := do
  let s ← (s.unwind (-1)).dropCandidate
  return { s.push .streamEnd with keyAllowed := false, candidates := [], done := true }

def fetchDirective (s : Scan) : Except TokenFault Scan := do
  let s ← (s.unwind (-1)).dropCandidate
  let (found, after) ← directive s.here.next
  return { s with keyAllowed := false }.emit (.directive found) after

def fetchSeparator (s : Scan) (token : Token) : Except TokenFault Scan := do
  let s ← (s.unwind (-1)).dropCandidate
  return { s with keyAllowed := false }.emit token (s.here.skip 3)

def fetchFlowStart (s : Scan) (token : Token) : Except TokenFault Scan := do
  let s ← s.saveCandidate
  return { s with depth := s.depth + 1, keyAllowed := true }.emit token s.here.next

def fetchFlowEnd (s : Scan) (token : Token) : Except TokenFault Scan := do
  let s ← s.dropCandidate
  return { s with depth := s.depth - 1, keyAllowed := false }.emit token s.here.next

def fetchFlowEntry (s : Scan) : Except TokenFault Scan := do
  let s ← s.dropCandidate
  return { s with keyAllowed := true }.emit .flowEntry s.here.next

def fetchBlockEntry (s : Scan) : Except TokenFault Scan := do
  if !s.inFlow && !s.keyAllowed then s.here.fail
  let s := if s.inFlow then s else s.openBlockHere .blockSequenceStart
  let s ← s.dropCandidate
  return { s with keyAllowed := true }.emit .blockEntry s.here.next

def fetchKey (s : Scan) : Except TokenFault Scan := do
  if !s.inFlow && !s.keyAllowed then s.here.fail
  let s := if s.inFlow then s else s.openBlockHere .blockMappingStart
  let s ← s.dropCandidate
  return { s with keyAllowed := !s.inFlow }.emit .key s.here.next

def insertAt (s : Scan) (number : Nat) (tokens : List Token) : Scan :=
  let place := number - s.given.length
  { s with queue := s.queue.take place ++ tokens ++ s.queue.drop place }

def fetchValue (s : Scan) : Except TokenFault Scan :=
  match s.candidates.find? fun entry => entry.1 = s.depth with
  | some (_, key) =>
    let s := { s with candidates := s.candidates.filter fun entry => entry.1 ≠ s.depth }
    let s :=
      if s.inFlow then s.insertAt key.number [.key]
      else
        match s.openBlock key.column with
        | some s => s.insertAt key.number [.blockMappingStart, .key]
        | none => s.insertAt key.number [.key]
    .ok ({ s with keyAllowed := false }.emit .value s.here.next)
  | none => do
    if !s.inFlow && !s.keyAllowed then s.here.fail
    let s := if s.inFlow then s else s.openBlockHere .blockMappingStart
    let s ← s.dropCandidate
    return { s with keyAllowed := !s.inFlow }.emit .value s.here.next

def fetchAlias (s : Scan) : Except TokenFault Scan := do
  let s ← s.saveCandidate
  let (name, after) ← anchorName s.here.next
  return { s with keyAllowed := false }.emit (.alias name) after

def fetchAnchor (s : Scan) : Except TokenFault Scan := do
  let s ← s.saveCandidate
  let (name, after) ← anchorName s.here.next
  return { s with keyAllowed := false }.emit (.anchor name) after

def fetchTag (s : Scan) : Except TokenFault Scan := do
  let s ← s.saveCandidate
  let (found, after) ← tagToken s.here
  return { s with keyAllowed := false }.emit found after

def fetchBlockScalar (s : Scan) (folded : Bool) : Except TokenFault Scan := do
  let s ← s.dropCandidate
  let (text, after) ← blockScalar folded s.indent s.here.next
  return { s with keyAllowed := true }.emit (.scalar (String.ofList text) false) after

def fetchQuoted (s : Scan) (double : Bool) : Except TokenFault Scan := do
  let s ← s.saveCandidate
  let (text, after) ← quotedScalar double s.here.next
  return { s with keyAllowed := false }.emit (.scalar (String.ofList text) false) after

def fetchPlain (s : Scan) : Except TokenFault Scan := do
  let s ← s.saveCandidate
  let found := plainScalar s.inFlow (s.indent + 1) s.here
  return { s with keyAllowed := found.endsLine }.emit
    (.scalar (String.ofList found.text) true) found.after

def plainStarts (s : Scan) : Bool :=
  let c := s.here.peek
  let indicators := "-?:,[]\x7b\x7d#&*!|>'\"%@`".toList
  (!isBlankOrEnd c && !indicators.contains c)
    || (!isBlankOrEnd (s.here.peekAt 1) && (c = '-' || (!s.inFlow && (c = '?' || c = ':'))))

def fetchHere (s : Scan) : Except TokenFault Scan :=
  let c := s.here.peek
  let blankNext := isBlankOrEnd (s.here.peekAt 1)
  if c = endMark then s.fetchStreamEnd
  else if c = '%' && s.here.column = 0 then s.fetchDirective
  else if s.here.column = 0 && s.here.atMark ['-', '-', '-'] then s.fetchSeparator .documentStart
  else if s.here.column = 0 && s.here.atMark ['.', '.', '.'] then s.fetchSeparator .documentEnd
  else if c = '[' then s.fetchFlowStart .flowSequenceStart
  else if c = '\x7b' then s.fetchFlowStart .flowMappingStart
  else if c = ']' then s.fetchFlowEnd .flowSequenceEnd
  else if c = '\x7d' then s.fetchFlowEnd .flowMappingEnd
  else if c = ',' then s.fetchFlowEntry
  else if c = '-' && blankNext then s.fetchBlockEntry
  else if c = '?' && (s.inFlow || blankNext) then s.fetchKey
  else if c = ':' && (s.inFlow || blankNext) then s.fetchValue
  else if c = '*' then s.fetchAlias
  else if c = '&' then s.fetchAnchor
  else if c = '!' then s.fetchTag
  else if c = '|' && !s.inFlow then s.fetchBlockScalar false
  else if c = '>' && !s.inFlow then s.fetchBlockScalar true
  else if c = '\'' then s.fetchQuoted false
  else if c = '"' then s.fetchQuoted true
  else if s.plainStarts then s.fetchPlain
  else s.here.fail

/-- Fails when the cursor has come to the end of what can be read. -/
def withinReach (s : Scan) : Except TokenFault Scan :=
  match s.barrier with
  | some (limit, fault) => if limit ≤ s.here.index then .error ⟨s.here.index, fault⟩ else .ok s
  | none => .ok s

def fetch (s : Scan) : Except TokenFault Scan := do
  let s ← (toNextToken (s.here.rest.length + 1) s).withinReach
  let s ← s.dropStale
  let s ← (s.unwind s.here.column).fetchHere
  s.withinReach

/-- What a fault comes to: what cannot be read is at fault for all that is seen there. -/
def verdict (s : Scan) (found : TokenFault) : Fault :=
  match s.barrier with
  | some (limit, fault) => if limit ≤ found.index then fault else found.fault
  | none => found.fault

def deliver (s : Scan) : Scan :=
  let limit := s.candidates.foldl (fun least entry => min least entry.2.number) s.nextNumber
  let ready := limit - s.given.length
  { s with given := (s.queue.take ready).reverse ++ s.given, queue := s.queue.drop ready }

end Scan

structure TokenStream where
  tokens : List Token
  fault : Option Fault

/-- Every token takes at least one character, so `steps` need not exceed the characters by more than
the end of the document. -/
def scanFrom : (steps : Nat) → Scan → TokenStream
  | 0, s => ⟨s.given.reverse, none⟩
  | steps + 1, s =>
    if s.done then ⟨s.given.reverse, none⟩
    else
      match s.fetch >>= Scan.dropStale with
      | .error found => ⟨s.given.reverse, some (s.verdict found)⟩
      | .ok s => scanFrom steps s.deliver

/-- The tokens of a document of which `cs` can be read before a fault. A byte order mark may start
it. -/
def TokenStream.ofDocument (cs : List Char) (fault : Option Fault) : TokenStream :=
  let start : Cursor := ⟨cs, 0, 0, 0⟩
  let start := if start.peek = '\ufeff' then start.next else start
  scanFrom (cs.length + 2) { here := start, barrier := fault.map fun fault => (cs.length, fault) }

end WarningSweep.Yaml
