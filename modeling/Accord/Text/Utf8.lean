namespace Accord

abbrev Bytes := List UInt8

namespace Text

def utf8 (s : String) : Bytes := s.toUTF8.toList

def ofUtf8? (bytes : Bytes) : Option String := String.fromUTF8? ⟨bytes.toArray⟩

/-- Inside a character: its code so far, the bytes it still needs, and the range of the next one. -/
structure PartialChar where
  code : Nat
  needed : Nat
  low : UInt8
  high : UInt8

def replacement : Char := Char.ofNat 0xFFFD

def startChar (b : UInt8) : List Char × Option PartialChar :=
  let n := b.toNat
  if n < 0x80 then ([Char.ofNat n], none)
  else if n < 0xC2 then ([replacement], none)
  else if n < 0xE0 then ([], some ⟨n - 0xC0, 1, 0x80, 0xBF⟩)
  else if n < 0xF0 then
    ([], some ⟨n - 0xE0, 2, if n = 0xE0 then 0xA0 else 0x80, if n = 0xED then 0x9F else 0xBF⟩)
  else if n < 0xF5 then
    ([], some ⟨n - 0xF0, 3, if n = 0xF0 then 0x90 else 0x80, if n = 0xF4 then 0x8F else 0xBF⟩)
  else ([replacement], none)

def nextByte (state : Option PartialChar) (b : UInt8) : List Char × Option PartialChar :=
  match state with
  | none => startChar b
  | some p =>
    if p.low ≤ b ∧ b ≤ p.high then
      let code := p.code * 64 + (b.toNat - 0x80)
      if p.needed ≤ 1 then ([Char.ofNat code], none)
      else ([], some ⟨code, p.needed - 1, 0x80, 0xBF⟩)
    else
      let (chars, state) := startChar b
      (replacement :: chars, state)

def isExpected (state : Option PartialChar) (b : UInt8) : Bool :=
  match state with
  | some p => p.low ≤ b && b ≤ p.high
  | none => b < 0x80 || (startChar b).2.isSome

/-- Where bytes stop being UTF-8: behind how many of them, and how many make up the broken character,
unless that is only cut off. -/
structure Utf8Fault where
  index : Nat
  length : Option Nat
  deriving DecidableEq, Repr

/-- The first fault; `seen` bytes have been read, and the first `valid` of them are whole
characters. -/
def findFault? (state : Option PartialChar) (valid seen : Nat) : Bytes → Option Utf8Fault
  | [] => if state.isSome then some ⟨valid, none⟩ else none
  | b :: rest =>
    if isExpected state b then
      let next := (nextByte state b).2
      findFault? next (if next.isNone then seen + 1 else valid) (seen + 1) rest
    else some ⟨valid, some (max 1 (seen - valid))⟩

def validLength (bytes : Bytes) : Nat :=
  match findFault? none 0 0 bytes with
  | some fault => fault.index
  | none => bytes.length

/-- Decodes bytes; each longest piece that begins no character becomes one replacement character. -/
def decodeLossy (bytes : Bytes) : List Char :=
  let (chars, state) := bytes.foldl (fun (chars, state) b =>
    let (more, state) := nextByte state b
    (more.reverse ++ chars, state)) (([] : List Char), none)
  (if state.isSome then replacement :: chars else chars).reverse

def ofUtf8Lossy (bytes : Bytes) : String :=
  (ofUtf8? bytes).getD (String.ofList (decodeLossy bytes))

end Text

end Accord
