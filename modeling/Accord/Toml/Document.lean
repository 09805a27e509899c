import Accord.Toml.Number
import Accord.Toml.Tree

namespace Accord.Toml

mutual

/-- A value of at most so many levels; `fuel` bounds the parts of each. -/
def readValue (levels fuel : Nat) (s : List Char) : Option (Json × List Char) :=
  match s, levels with
  | '[' :: rest, levels + 1 => readItems levels fuel fuel [] rest
  | '{' :: rest, levels + 1 =>
    match skipBlanks rest with
    | '}' :: rest => some (.object [], rest)
    | rest => readInline levels fuel fuel [] rest
  | 't' :: 'r' :: 'u' :: 'e' :: rest, _ => some (.bool true, rest)
  | 'f' :: 'a' :: 'l' :: 's' :: 'e' :: rest, _ => some (.bool false, rest)
  | '"' :: _, _ | '\'' :: _, _ => (readText s).map fun (text, rest) => (.string text, rest)
  | _, _ => readNumber s
termination_by (levels, fuel + 1)

def readItems (levels fuel count : Nat) (acc : List Json) (s : List Char) :
    Option (Json × List Char) :=
  match count, skipLines fuel s with
  | _, ']' :: rest => some (.array acc.reverse, rest)
  | 0, _ => none
  | count + 1, s =>
    (readValue levels fuel s).bind fun (v, rest) =>
      match skipLines fuel rest with
      | ',' :: rest => readItems levels fuel count (v :: acc) rest
      | ']' :: rest => some (.array (v :: acc).reverse, rest)
      | _ => none
termination_by (levels, fuel + 2 + count)

def readInline (levels fuel count : Nat) (entries : Entries) (s : List Char) :
    Option (Json × List Char) :=
  match count with
  | 0 => none
  | count + 1 =>
    (readKey s).bind fun
      | ((path, key), '=' :: rest) =>
        (readValue levels fuel (skipBlanks rest)).bind fun (v, rest) =>
          (addValue path key v .header entries).bind fun entries =>
            match skipBlanks rest with
            | ',' :: rest => readInline levels fuel count entries rest
            | '}' :: rest => some ((Tree.table .header entries).toJson, rest)
            | _ => none
      | _ => none
termination_by (levels, fuel + 2 + count)

end

structure Document where
  /-- The header under which the next lines stand. -/
  table : List String := []
  entries : Entries := []

def readLine (fuel : Nat) (d : Document) (s : List Char) : Option (Document × List Char) :=
  match s with
  | '[' :: '[' :: rest =>
    (readKey rest).bind fun
      | ((path, key), ']' :: ']' :: rest) => do
        let entries ← defineRow path key d.entries
        return (⟨path ++ [key], entries⟩, ← endLine rest)
      | _ => none
  | '[' :: rest =>
    (readKey rest).bind fun
      | ((path, key), ']' :: rest) => do
        let entries ← defineTable path key d.entries
        return (⟨path ++ [key], entries⟩, ← endLine rest)
      | _ => none
  | _ =>
    (readKey s).bind fun
      | ((path, key), '=' :: rest) => do
        let (v, rest) ← readValue levelLimit fuel (skipBlanks rest)
        let entries ← addValueAt d.table path key v d.entries
        return ({ d with entries := entries }, ← endLine rest)
      | _ => none

def readLinesOf (length fuel : Nat) (d : Document) (s : List Char) : Option Document :=
  match fuel, skipLines length s with
  | _, [] => some d
  | 0, _ => none
  | fuel + 1, s => (readLine length d s).bind fun (d, rest) => readLinesOf length fuel d rest

def joinBreaks : List Char → List Char
  | '\r' :: '\n' :: rest => '\n' :: joinBreaks rest
  | c :: rest => c :: joinBreaks rest
  | [] => []

def read (text : String) : Option Json :=
  let s := match text.toList with
    | c :: rest => if c.toNat = 0xFEFF then rest else c :: rest
    | [] => []
  let s := joinBreaks s
  (readLinesOf (s.length + 1) (s.length + 1) {} s).map fun d => (Tree.table .header d.entries).toJson

end Accord.Toml
