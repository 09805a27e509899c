import Accord.Json.Basic
import Accord.Text.Order
import Accord.Text.Split
import Accord.Text.Utf8

namespace Accord.Query

def hexDigit? (b : UInt8) : Option UInt8 :=
  if 48 ≤ b ∧ b ≤ 57 then some (b - 48)
  else if 97 ≤ b ∧ b ≤ 102 then some (b - 87)
  else if 65 ≤ b ∧ b ≤ 70 then some (b - 55)
  else none

def hexPair? (a b : UInt8) : Option UInt8 :=
  match hexDigit? a, hexDigit? b with
  | some a, some b => some (a * 16 + b)
  | _, _ => none

def splitBytes (separator : UInt8) (bytes : Bytes) : List Bytes :=
  let (piece, pieces) := bytes.foldr (fun b (piece, pieces) =>
    if b = separator then ([], piece :: pieces) else (b :: piece, pieces)) ([], [])
  piece :: pieces

/-- What follows a percent sign; without two digits the sign stays. -/
def decodePiece : Bytes → Bytes
  | a :: b :: rest =>
    match hexPair? a b with
    | some c => c :: rest
    | none => 37 :: a :: b :: rest
  | rest => 37 :: rest

def decodeBytes (bytes : Bytes) : Bytes :=
  match splitBytes 37 (bytes.map fun b => if b = 43 then 32 else b) with
  | [] => []
  | first :: pieces => first ++ pieces.flatMap decodePiece

def decode (bytes : Bytes) : String := Text.ofUtf8Lossy (decodeBytes bytes)

def readPair (piece : Bytes) : String × String :=
  (decode (piece.takeWhile (· != 61)), decode ((piece.dropWhile (· != 61)).drop 1))

def readPairs (bytes : Bytes) : List (String × String) :=
  ((splitBytes 38 bytes).filter (!·.isEmpty)).map readPair

def group (pairs : List (String × String)) : Named (List String) :=
  pairs.foldl (fun named (key, value) =>
    Named.put key ((named.lookup key).getD [] ++ [value]) named) []

/-- The members that pairs make: a forced key holds the list of its values, another key its last
value. -/
def toMembers (forceList : List String) (pairs : List (String × Json)) : List (String × Json) :=
  pairs.foldl (fun members (key, value) =>
    let value := if forceList.contains key then
        match members.lookup key with
        | some (.array values) => .array (values ++ [value])
        | _ => .array [value]
      else value
    Json.insertMember key value members) []

def isUnreserved (b : UInt8) : Bool :=
  let c := Char.ofNat b.toNat
  c.isAlphanum || c == '-' || c == '_' || c == '.' || c == '~'

def hexUpper (n : Nat) : Char := (Nat.digitChar n).toUpper

def encodeByte (b : UInt8) : List Char :=
  if isUnreserved b then [Char.ofNat b.toNat]
  else ['%', hexUpper (b.toNat / 16), hexUpper (b.toNat % 16)]

def encode (s : String) : String := String.ofList ((Text.utf8 s).flatMap encodeByte)

def writePair (pair : String × String) : String := encode pair.1 ++ "=" ++ encode pair.2

def writePairs (pairs : List (String × String)) : String := Text.join "&" (pairs.map writePair)

end Accord.Query
