import WarningSweep.Constant.Basic
import WarningSweep.Log.Record
import WarningSweep.Text.CharClass

/-!
# Designated declarations

A script designates a constant by a comment after its declaration, as in
`var HELLO = "Hello" ; /* C: char * */`. A line can often be read in several ways. The reading with
the first keyword is taken, then the one with the longest value, then the one with the longest type.
-/

namespace WarningSweep.Declaration

structure Reading where
  symbol : String
  value : String
  ctype : String
  deriving DecidableEq, Repr, Inhabited

def keywords : List (List Char) := ["const".toList, "var".toList, "let".toList]

def dropBlanks (cs : List Char) : List Char := cs.dropWhile isBlank

def after? (front cs : List Char) : Option (List Char) :=
  if front.isPrefixOf cs then some (cs.drop front.length) else none

def afterBlanks? (front cs : List Char) : Option (List Char) := after? front (dropBlanks cs)

/-- Tries a reading of the text after a front on one line that is not empty: the longest front
first. The front is passed in reverse, after what is `taken` already. -/
def longestFront {α : Type} (reading : (front rest : List Char) → Option α) :
    (taken cs : List Char) → Option α
  | _, [] => none
  | taken, c :: rest =>
    if c = '\n' then none
    else
      match longestFront reading (c :: taken) rest with
      | some result => some result
      | none => reading (c :: taken) rest

/-- Tries a reading of the text after leading blanks and a front: the longest front after all the
blanks first, then a front that is a single blank, the last of them first. A longer front with a
blank at its start ends where one of these does, so it is not tried again. -/
def frontAfterBlanks {α : Type} (reading : (front rest : List Char) → Option α) :
    List Char → Option α
  | [] => none
  | c :: rest =>
    if isBlank c then
      match frontAfterBlanks reading rest with
      | some result => some result
      | none => if c = '\n' then none else reading [c] rest
    else longestFront reading [] (c :: rest)

def designation? (cs : List Char) : Option (List Char) := do
  let cs ← afterBlanks? [';'] cs
  let cs ← afterBlanks? ['/', '*'] cs
  let cs ← afterBlanks? ['C'] cs
  afterBlanks? [':'] cs

def ctype? (cs : List Char) : Option (List Char) :=
  frontAfterBlanks (fun front rest =>
    (afterBlanks? ['*', '/'] rest).map fun _ => front.reverse) cs

def valueAndType? (cs : List Char) : Option (List Char × List Char) :=
  frontAfterBlanks (fun front rest => do
    let ctype ← ctype? (← designation? rest)
    return (front.reverse, ctype)) cs

def named? (cs : List Char) : Option Reading := do
  let symbol := cs.takeWhile isWordChar
  if symbol = [] then none
  let (value, ctype) ← valueAndType? (← afterBlanks? ['='] (cs.dropWhile isWordChar))
  return ⟨String.ofList symbol, String.ofList value, String.ofList ctype⟩

def readAt? (cs : List Char) : Option Reading := do
  let rest ← keywords.findSome? fun keyword => after? keyword cs
  named? (dropBlanks rest)

def read? : List Char → Option Reading
  | [] => none
  | c :: rest =>
    match readAt? (c :: rest) with
    | some reading => some reading
    | none => read? rest

def parts (reading : Reading) (source : String) : Constant.Part → Constant.Given
  | .symbol => .text reading.symbol
  | .value => .text reading.value
  | .ctype => .text reading.ctype
  | .source => .text source

def parse? (line source : String) : Option Constant :=
  match read? line.toList with
  | none => none
  | some reading =>
    match Constant.ofParts (parts reading source) with
    | .ok constant => some constant
    | .error _ => none

def log (guide : Option String) (line source : String) : List Log.Record :=
  match read? line.toList with
  | none => []
  | some reading =>
    match Constant.ofParts (parts reading source) with
    | .ok _ => []
    | .error faults =>
      [Log.Channel.extraction.warning
        s!"Invalid constant declaration in {source}: {Constant.report guide faults}"]

end WarningSweep.Declaration
