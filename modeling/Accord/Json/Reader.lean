import Accord.Json.Basic
import Accord.Text.Utf8

namespace Accord.Json

inductive Fault where
  | endInList
  | endInObject
  | endInString
  | endInValue
  | expectedColon
  | expectedListCommaOrEnd
  | expectedObjectCommaOrEnd
  | expectedIdentifier
  | expectedValue
  | invalidEscape
  | invalidNumber
  | numberOutOfRange
  | invalidUnicode
  | controlCharacter
  | keyMustBeString
  | loneSurrogate
  | trailingComma
  | trailingCharacters
  | unfinishedHexEscape
  | tooDeep
  deriving DecidableEq, Repr

def Fault.message : Fault → String
  | endInList => "EOF while parsing a list"
  | endInObject => "EOF while parsing an object"
  | endInString => "EOF while parsing a string"
  | endInValue => "EOF while parsing a value"
  | expectedColon => "expected `:`"
  | expectedListCommaOrEnd => "expected `,` or `]`"
  | expectedObjectCommaOrEnd => "expected `,` or `\x7d`"
  | expectedIdentifier => "expected ident"
  | expectedValue => "expected value"
  | invalidEscape => "invalid escape"
  | invalidNumber => "invalid number"
  | numberOutOfRange => "number out of range"
  | invalidUnicode => "invalid unicode code point"
  | controlCharacter => "control character (\\u0000-\\u001F) found while parsing a string"
  | keyMustBeString => "key must be a string"
  | loneSurrogate => "lone leading surrogate in hex escape"
  | trailingComma => "trailing comma"
  | trailingCharacters => "trailing characters"
  | unfinishedHexEscape => "unexpected end of hex escape"
  | tooDeep => "recursion limit exceeded"

structure FaultAt where
  fault : Fault
  offset : Nat
  deriving Repr

structure Cursor where
  rest : Bytes
  offset : Nat

namespace Cursor

def next (c : Cursor) : Cursor := ⟨c.rest.tail, c.offset + 1⟩

def failHere {α : Type} (c : Cursor) (fault : Fault) : Except FaultAt α := .error ⟨fault, c.offset⟩

def failNext {α : Type} (c : Cursor) (fault : Fault) : Except FaultAt α :=
  .error ⟨fault, if c.rest.isEmpty then c.offset else c.offset + 1⟩

def skipBlanks (c : Cursor) : Cursor :=
  let isBlank := fun (b : UInt8) => b = 32 || b = 10 || b = 9 || b = 13
  let rest := c.rest.dropWhile isBlank
  ⟨rest, c.offset + (c.rest.length - rest.length)⟩

def peek? (c : Cursor) : Option UInt8 := c.rest.head?

end Cursor

def isDigit (b : UInt8) : Bool := 48 ≤ b && b ≤ 57

def digitValue (b : UInt8) : Nat := b.toNat - 48

/-- Digits are taken as long as the number fits 64 bits: the number, how many were taken, the rest. -/
def takeDigits (acc : Nat) (taken : Nat) : Bytes → Nat × Nat × Bytes
  | [] => (acc, taken, [])
  | b :: rest =>
    if isDigit b && acc * 10 + digitValue b < unsignedLimit then
      takeDigits (acc * 10 + digitValue b) (taken + 1) rest
    else (acc, taken, b :: rest)

/-- Magnitude of `units · 10^exponent`, by one rounded product or quotient with a power of ten
(and quotients by 10³⁰⁸ before, while the exponent is smaller). -/
def scaleUnits (units : Nat) (exponent : Int) : Nat → Option Nat
  | 0 => some 0
  | fuel + 1 =>
    if exponent.natAbs ≤ 308 then
      let power := Binary64.roundUnits (pow10 exponent.natAbs * Binary64.unitsOfOne) 1
      let scaled := if 0 ≤ exponent then Binary64.mulUnits units power
        else Binary64.divUnits units power
      if scaled < Binary64.overflowUnits then some scaled else none
    else if units = 0 then some 0
    else if 0 ≤ exponent then none
    else
      let power := Binary64.roundUnits (pow10 308 * Binary64.unitsOfOne) 1
      scaleUnits (Binary64.divUnits units power) (exponent + 308) fuel

def floatOfParts (negative : Bool) (significand : Nat) (exponent : Int) (c : Cursor) :
    Except FaultAt (Json × Cursor) :=
  let units := Binary64.roundUnits (significand * Binary64.unitsOfOne) 1
  match scaleUnits units exponent 4 with
  | some units => .ok (.float ⟨negative, units⟩, c)
  | none => c.failHere .numberOutOfRange

def readExponent (negative : Bool) (significand : Nat) (exponent : Int) (c : Cursor) :
    Except FaultAt (Json × Cursor) :=
  let c := c.next
  let (negativeExponent, c) := match c.peek? with
    | some 43 => (false, c.next)
    | some 45 => (true, c.next)
    | _ => (false, c)
  match c.peek? with
  | none => c.failHere .endInValue
  | some b =>
    if !isDigit b then c.next.failHere .invalidNumber
    else
      let digits := c.rest.takeWhile isDigit
      let value := digits.foldl (fun n d => n * 10 + digitValue d) 0
      let after : Cursor := ⟨c.rest.dropWhile isDigit, c.offset + digits.length⟩
      if value < pow2 31 then
        floatOfParts negative significand
          (if negativeExponent then exponent - value else exponent + value) after
      else if significand ≠ 0 ∧ !negativeExponent then
        let fitting := (digits.foldl (fun (n, k) d =>
          if n * 10 + digitValue d < pow2 31 && k.2 then (n * 10 + digitValue d, k.1 + 1, true)
          else (n, k.1, false)) (0, 0, true)).2.1
        (⟨after.rest, c.offset + fitting + 1⟩ : Cursor).failHere .numberOutOfRange
      else .ok (.float ⟨negative, 0⟩, after)

def readFloatEnd (negative : Bool) (significand : Nat) (exponent : Int) (c : Cursor) :
    Except FaultAt (Json × Cursor) :=
  match c.peek? with
  | some 101 | some 69 => readExponent negative significand exponent c
  | _ => floatOfParts negative significand exponent c

/-- The part behind the point; digits that no longer fit are dropped. -/
def readFraction (negative : Bool) (significand : Nat) (exponent : Int) (c : Cursor) :
    Except FaultAt (Json × Cursor) :=
  let c := c.next
  let (significand, taken, rest) := takeDigits significand 0 c.rest
  let dropped := rest.takeWhile isDigit
  let after : Cursor := ⟨rest.dropWhile isDigit, c.offset + taken + dropped.length⟩
  if taken = 0 ∧ dropped.isEmpty then
    c.failNext (if c.rest.isEmpty then .endInValue else .invalidNumber)
  else readFloatEnd negative significand (exponent - taken) after

def readNumber (negative : Bool) (c : Cursor) : Except FaultAt (Json × Cursor) :=
  match c.peek? with
  | none => c.failHere .endInValue
  | some b =>
    if !isDigit b then c.next.failHere .invalidNumber
    else if b = 48 ∧ c.next.peek?.any isDigit then c.next.failNext .invalidNumber
    else
      let (significand, taken, rest) := takeDigits 0 0 c.rest
      let dropped := rest.takeWhile isDigit
      let after : Cursor := ⟨rest.dropWhile isDigit, c.offset + taken + dropped.length⟩
      match after.peek? with
      | some 46 => readFraction negative significand dropped.length after
      | some 101 | some 69 => readExponent negative significand dropped.length after
      | _ =>
        if !dropped.isEmpty then floatOfParts negative significand dropped.length after
        else if !negative then .ok (.int significand, after)
        else if significand = 0 ∨ signedLimit < significand then
          floatOfParts true significand 0 after
        else .ok (.int (-(significand : Int)), after)

def hexDigit? (b : UInt8) : Option Nat :=
  if isDigit b then some (digitValue b)
  else if 97 ≤ b && b ≤ 102 then some (b.toNat - 87)
  else if 65 ≤ b && b ≤ 70 then some (b.toNat - 55)
  else none

def hexNumber? (digits : Bytes) : Option Nat :=
  digits.foldlM (fun n b => (hexDigit? b).map (n * 16 + ·)) 0

inductive StringState where
  | text
  | escape
  | hex (digits : Bytes) (leading : Option Nat)
  | pairSlash (leading : Nat)
  | pairLetter (leading : Nat)

def simpleEscape? (b : UInt8) : Option UInt8 :=
  if b = 34 ∨ b = 92 ∨ b = 47 then some b
  else if b = 98 then some 8
  else if b = 102 then some 12
  else if b = 110 then some 10
  else if b = 114 then some 13
  else if b = 116 then some 9
  else none

/-- What four hexadecimal digits mean, in front of the state that follows. -/
def hexEscape (digits : Bytes) (leading : Option Nat) :
    Except Fault (Bytes × StringState) :=
  match hexNumber? digits, leading with
  | none, _ => .error .invalidEscape
  | some n, none =>
    if 0xDC00 ≤ n ∧ n ≤ 0xDFFF then .error .loneSurrogate
    else if 0xD800 ≤ n ∧ n ≤ 0xDBFF then .ok ([], .pairSlash n)
    else .ok (String.utf8EncodeChar (Char.ofNat n), .text)
  | some n, some high =>
    if n < 0xDC00 ∨ 0xDFFF < n then .error .loneSurrogate
    else
      let code := (high - 0xD800) * 0x400 + (n - 0xDC00) + 0x10000
      .ok (String.utf8EncodeChar (Char.ofNat code), .text)

def readStringBytes (state : StringState) (acc : Bytes) (offset : Nat) :
    Bytes → Except FaultAt (Bytes × Cursor)
  | [] => .error ⟨.endInString, offset⟩
  | b :: rest =>
    let fail := fun fault => .error (⟨fault, offset + 1⟩ : FaultAt)
    match state with
    | .text =>
      if b = 34 then .ok (acc.reverse, ⟨rest, offset + 1⟩)
      else if b = 92 then readStringBytes .escape acc (offset + 1) rest
      else if b < 32 then fail .controlCharacter
      else readStringBytes .text (b :: acc) (offset + 1) rest
    | .escape =>
      if b = 117 then readStringBytes (.hex [] none) acc (offset + 1) rest
      else match simpleEscape? b with
        | some meant => readStringBytes .text (meant :: acc) (offset + 1) rest
        | none => fail .invalidEscape
    | .hex digits leading =>
      if digits.length < 3 then
        readStringBytes (.hex (digits ++ [b]) leading) acc (offset + 1) rest
      else match hexEscape (digits ++ [b]) leading with
        | .error fault => fail fault
        | .ok (bytes, state) => readStringBytes state (bytes.reverse ++ acc) (offset + 1) rest
    | .pairSlash leading =>
      if b = 92 then readStringBytes (.pairLetter leading) acc (offset + 1) rest
      else fail .unfinishedHexEscape
    | .pairLetter leading =>
      if b = 117 then readStringBytes (.hex [] (some leading)) acc (offset + 1) rest
      else fail .unfinishedHexEscape

/-- A string behind its opening quote. Of bytes that are no text, the first wrong one is told. -/
def readString (c : Cursor) : Except FaultAt (String × Cursor) := do
  let (bytes, behind) ← readStringBytes .text [] c.offset c.rest
  match Text.ofUtf8? bytes with
  | some s => .ok (s, behind)
  | none =>
    let written := c.rest.take (behind.offset - 1 - c.offset)
    .error ⟨.invalidUnicode, c.offset + Text.validLength written + 1⟩

def readWord (value : Json) : List Char → Cursor → Except FaultAt (Json × Cursor)
  | [], c => .ok (value, c)
  | l :: ls, c =>
    match c.peek? with
    | none => c.failHere .endInValue
    | some b => if b.toNat = l.toNat then readWord value ls c.next
      else c.next.failHere .expectedIdentifier

mutual

/-- A value, of which `depth` levels of lists and objects may still open; `fuel` exceeds the number
of bytes left. -/
def readValue (fuel depth : Nat) (c : Cursor) : Except FaultAt (Json × Cursor) :=
  match fuel with
  | 0 => c.failNext .expectedValue
  | fuel + 1 =>
    let c := c.skipBlanks
    match c.peek? with
    | none => c.failNext .endInValue
    | some b =>
      if b = 110 then readWord .null ['u', 'l', 'l'] c.next
      else if b = 116 then readWord (.bool true) ['r', 'u', 'e'] c.next
      else if b = 102 then readWord (.bool false) ['a', 'l', 's', 'e'] c.next
      else if b = 45 then readNumber true c.next
      else if isDigit b then readNumber false c
      else if b = 34 then do
        let (s, c) ← readString c.next
        .ok (.string s, c)
      else if b = 91 then
        if depth ≤ 1 then c.failNext .tooDeep else readItems fuel (depth - 1) [] c.next
      else if b = 123 then
        if depth ≤ 1 then c.failNext .tooDeep else readMembers fuel (depth - 1) [] c.next
      else c.failNext .expectedValue

def readItems (fuel depth : Nat) (acc : List Json) (c : Cursor) : Except FaultAt (Json × Cursor) :=
  match fuel with
  | 0 => c.failNext .expectedValue
  | fuel + 1 => do
    let c := c.skipBlanks
    match c.peek? with
    | none => c.failNext .endInList
    | some b =>
      if b = 93 then .ok (.array acc.reverse, c.next)
      else if acc.isEmpty then
        let (v, c) ← readValue fuel depth c
        readItems fuel depth [v] c
      else if b ≠ 44 then c.failNext .expectedListCommaOrEnd
      else
        let c := c.next.skipBlanks
        match c.peek? with
        | none => c.failNext .endInValue
        | some 93 => c.failNext .trailingComma
        | some _ =>
          let (v, c) ← readValue fuel depth c
          readItems fuel depth (v :: acc) c

def readMembers (fuel depth : Nat) (acc : List (String × Json)) (c : Cursor) : Except FaultAt (Json × Cursor) :=
  match fuel with
  | 0 => c.failNext .expectedValue
  | fuel + 1 => do
    let c := c.skipBlanks
    match c.peek? with
    | none => c.failNext .endInObject
    | some b =>
      if b = 125 then .ok (.object acc.reverse, c.next)
      else if acc.isEmpty then
        if b = 34 then readMember fuel depth acc c.next else c.failNext .keyMustBeString
      else if b ≠ 44 then c.failNext .expectedObjectCommaOrEnd
      else
        let c := c.next.skipBlanks
        match c.peek? with
        | some 34 => readMember fuel depth acc c.next
        | some 125 => c.failNext .trailingComma
        | some _ => c.failNext .keyMustBeString
        | none => c.failNext .endInValue

def readMember (fuel depth : Nat) (acc : List (String × Json)) (c : Cursor) : Except FaultAt (Json × Cursor) :=
  match fuel with
  | 0 => c.failNext .expectedValue
  | fuel + 1 => do
    let (key, c) ← readString c
    let c := c.skipBlanks
    match c.peek? with
    | none => c.failNext .endInObject
    | some 58 =>
      let (v, c) ← readValue fuel depth c.next
      readMembers fuel depth ((key, v) :: acc) c
    | some _ => c.failNext .expectedColon

end

structure SyntaxError where
  fault : Fault
  line : Nat
  column : Nat
  deriving DecidableEq, Repr

def SyntaxError.message (e : SyntaxError) : String :=
  e.fault.message ++ " at line " ++ toString e.line ++ " column " ++ toString e.column

def locate (before : Bytes) : Nat × Nat :=
  before.foldl (fun (line, column) (b : UInt8) => if b = 10 then (line + 1, 0) else (line, column + 1)) (1, 0)

def FaultAt.inText (text : Bytes) (f : FaultAt) : SyntaxError :=
  let (line, column) := locate (text.take f.offset)
  ⟨f.fault, line, column⟩

def readWritten (text : Bytes) : Except SyntaxError Json :=
  let result : Except FaultAt Json := do
    let (v, c) ← readValue (2 * text.length + 2) 128 ⟨text, 0⟩
    let c := c.skipBlanks
    if c.rest.isEmpty then .ok v else c.failNext .trailingCharacters
  result.mapError (FaultAt.inText text)

def read (text : Bytes) : Except SyntaxError Json := (readWritten text).map normalize

def readText (text : String) : Except SyntaxError Json := read (Text.utf8 text)

end Accord.Json
