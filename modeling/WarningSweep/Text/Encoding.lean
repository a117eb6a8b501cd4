import WarningSweep.Text.Basic

/-!
# Text as bytes

Two encodings: the bytes of a text in UTF-8, and bytes of any kind written as text in base64.
-/

namespace WarningSweep

/-! ## UTF-8

Sources are decoded so that encoding gives back every byte: a byte that belongs to no well-formed
sequence stays a byte. Scripts and settings are decoded strictly, and the first ill-formed sequence
is reported with its place.
-/

def leadingChar? (bytes : Bytes) : Option Char := (bytes.take 4).toByteArray.utf8DecodeChar? 0

/-- Decodes after leaving out `skip` bytes that belong to a character already decoded. -/
def decodeFrom : (skip : Nat) → Bytes → Text
  | _, [] => []
  | skip + 1, _ :: bytes => decodeFrom skip bytes
  | 0, b :: bytes =>
    match leadingChar? (b :: bytes) with
    | some c => .char c :: decodeFrom (c.utf8Size - 1) bytes
    | none => .byte b :: decodeFrom 0 bytes

def Text.decode (bytes : Bytes) : Text := decodeFrom 0 bytes

def Glyph.encode : Glyph → Bytes
  | .char c => String.utf8EncodeChar c
  | .byte b => [b]

def Text.encode (t : Text) : Bytes := t.flatMap Glyph.encode

def encodeString (s : String) : Bytes := s.toList.flatMap String.utf8EncodeChar

inductive DecodeReason where
  | invalidStart
  | invalidContinuation
  | unexpectedEnd
  deriving DecidableEq, Repr

def DecodeReason.text : DecodeReason → String
  | .invalidStart => "invalid start byte"
  | .invalidContinuation => "invalid continuation byte"
  | .unexpectedEnd => "unexpected end of data"

/-- An ill-formed sequence of `count` bytes, the first of which is `byte` and stands at `start`. -/
structure DecodeFault where
  start : Nat
  count : Nat
  byte : UInt8
  reason : DecodeReason
  deriving DecidableEq, Repr

def DecodeFault.message (fault : DecodeFault) : String :=
  let place :=
    if fault.count = 1 then
      let digits := String.ofList ([fault.byte.toNat / 16, fault.byte.toNat % 16].map Nat.digitChar)
      s!"byte 0x{digits} in position {fault.start}"
    else s!"bytes in position {fault.start}-{fault.start + fault.count - 1}"
  s!"'utf-8' codec can't decode {place}: {fault.reason.text}"

/-- The ranges that the bytes after a lead byte must lie in; none for a byte that starts nothing. -/
def continuations? (lead : UInt8) : Option (List (Nat × Nat)) :=
  let n := lead.toNat
  if n < 0x80 then some []
  else if n < 0xC2 then none
  else if n < 0xE0 then some [(0x80, 0xBF)]
  else if n = 0xE0 then some [(0xA0, 0xBF), (0x80, 0xBF)]
  else if n = 0xED then some [(0x80, 0x9F), (0x80, 0xBF)]
  else if n < 0xF0 then some [(0x80, 0xBF), (0x80, 0xBF)]
  else if n = 0xF0 then some [(0x90, 0xBF), (0x80, 0xBF), (0x80, 0xBF)]
  else if n < 0xF4 then some [(0x80, 0xBF), (0x80, 0xBF), (0x80, 0xBF)]
  else if n = 0xF4 then some [(0x80, 0x8F), (0x80, 0xBF), (0x80, 0xBF)]
  else none

/-- How many bytes match their ranges, and why the next one does not. -/
def matchContinuations : List (Nat × Nat) → Bytes → Nat × Option DecodeReason
  | [], _ => (0, none)
  | _ :: _, [] => (0, some .unexpectedEnd)
  | range :: ranges, b :: bytes =>
    if range.1 ≤ b.toNat ∧ b.toNat ≤ range.2 then
      let (count, reason) := matchContinuations ranges bytes
      (count + 1, reason)
    else (0, some .invalidContinuation)

/-- The ill-formed sequence that starts the bytes, which do not start with a character. -/
def leadingFault (start : Nat) (b : UInt8) (bytes : Bytes) : DecodeFault :=
  match continuations? b with
  | none => ⟨start, 1, b, .invalidStart⟩
  | some ranges =>
    let (count, reason) := matchContinuations ranges bytes
    ⟨start, count + 1, b, reason.getD .invalidStart⟩

/-- The characters before the first ill-formed sequence, and that sequence, after leaving out `skip`
bytes; the bytes stand at `start`. -/
def decodeUntil : (start skip : Nat) → Bytes → List Char × Option DecodeFault
  | _, _, [] => ([], none)
  | start, skip + 1, _ :: bytes => decodeUntil (start + 1) skip bytes
  | start, 0, b :: bytes =>
    match leadingChar? (b :: bytes) with
    | some c =>
      let (rest, fault) := decodeUntil (start + 1) (c.utf8Size - 1) bytes
      (c :: rest, fault)
    | none => ([], some (leadingFault start b bytes))

def decodeStrict (bytes : Bytes) : Except DecodeFault String :=
  match decodeUntil 0 0 bytes with
  | (cs, none) => .ok (String.ofList cs)
  | (_, some fault) => .error fault

def unifyLineEnds : List Char → List Char
  | [] => []
  | '\r' :: '\n' :: rest => '\n' :: unifyLineEnds rest
  | '\r' :: rest => '\n' :: unifyLineEnds rest
  | c :: rest => c :: unifyLineEnds rest

/-! ## Base64

Bytes as text. Reading passes over characters outside the alphabet and stops after a complete
padding; writing ends each line after 76 characters.
-/

namespace Base64

def alphabet : List Char :=
  "ABCDEFGHIJKLMNOPQRSTUVWXYZabcdefghijklmnopqrstuvwxyz0123456789+/".toList

/-- Reads on inside a group: `place` characters of it are read, `left` holds the bits of the last
one that are still to be used, and `pads` paddings were met in a row. -/
def decodeFrom (place left pads : Nat) : List Char → Option Bytes
  | [] => if place = 0 then some [] else none
  | '=' :: cs =>
    if 2 ≤ place ∧ 4 ≤ place + pads + 1 then some []
    else decodeFrom place left (if 2 ≤ place then pads + 1 else pads) cs
  | c :: cs =>
    match alphabet.idxOf? c with
    | none => decodeFrom place left pads cs
    | some v =>
      match place with
      | 0 => decodeFrom 1 v 0 cs
      | 1 => (decodeFrom 2 (v % 16) 0 cs).map ((left * 4 + v / 16).toUInt8 :: ·)
      | 2 => (decodeFrom 3 (v % 4) 0 cs).map ((left * 16 + v / 4).toUInt8 :: ·)
      | _ => (decodeFrom 0 0 0 cs).map ((left * 64 + v).toUInt8 :: ·)

def decode? (s : List Char) : Option Bytes := decodeFrom 0 0 0 s

def letter (n : Nat) : Char := alphabet.getD n 'A'

def encodeGroups : Bytes → List Char
  | a :: b :: c :: rest =>
    let n := (a.toNat * 256 + b.toNat) * 256 + c.toNat
    letter (n / 262144) :: letter (n / 4096 % 64) :: letter (n / 64 % 64) :: letter (n % 64)
      :: encodeGroups rest
  | [a, b] =>
    let n := (a.toNat * 256 + b.toNat) * 4
    [letter (n / 4096), letter (n / 64 % 64), letter (n % 64), '=']
  | [a] =>
    let n := a.toNat * 16
    [letter (n / 64), letter (n % 64), '=', '=']
  | [] => []

/-- Lines of 57 bytes, which take 76 characters, each with its line feed. -/
def encodeLines : (lines : Nat) → Bytes → List Char
  | 0, _ => []
  | lines + 1, bytes =>
    if bytes.isEmpty then []
    else encodeGroups (bytes.take 57) ++ '\n' :: encodeLines lines (bytes.drop 57)

def encode (bytes : Bytes) : String := String.ofList (encodeLines (bytes.length + 1) bytes)

end Base64

end WarningSweep
