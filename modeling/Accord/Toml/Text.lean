import Accord.Json.Basic
import Accord.Text.Number

namespace Accord.Toml

def isBlank (c : Char) : Bool := c == ' ' || c == '\t'

def skipBlanks (s : List Char) : List Char := s.dropWhile isBlank

def isInline (c : Char) : Bool := c == '\t' || (32 ≤ c.toNat && c.toNat != 127)

def skipComment (s : List Char) : List Char :=
  if s.head? = some '#' then s.dropWhile isInline else s

/-- What follows the end of a line; blanks and a comment may stand in front of it. -/
def endLine (s : List Char) : Option (List Char) :=
  match skipComment (skipBlanks s) with
  | [] => some []
  | '\n' :: rest => some rest
  | _ => none

def skipLines (fuel : Nat) (s : List Char) : List Char :=
  match fuel, skipComment (skipBlanks s) with
  | fuel + 1, '\n' :: rest => skipLines fuel rest
  | _, s => s

def hexDigit? (c : Char) : Option Nat :=
  if c.isDigit then some (c.toNat - 48)
  else if 'a' ≤ c ∧ c ≤ 'f' then some (c.toNat - 87)
  else if 'A' ≤ c ∧ c ≤ 'F' then some (c.toNat - 55)
  else none

def simpleEscape? (c : Char) : Option Char :=
  match c with
  | 'b' => some (Char.ofNat 8)
  | 't' => some '\t'
  | 'n' => some '\n'
  | 'f' => some (Char.ofNat 12)
  | 'r' => some '\r'
  | '"' => some '"'
  | '\\' => some '\\'
  | _ => none

inductive Place where
  | plain
  | escape
  | code (missing value : Nat)
  /-- Behind a backslash and blanks; the line must end. -/
  | fold
  /-- Behind a line break that does not count, as all blanks then. -/
  | folded
  | quotes (n : Nat)

def stepEscape (place : Place) (c : Char) : Option (Place × List Char) :=
  match place with
  | .code missing value =>
    (hexDigit? c).bind fun d =>
      let value := value * 16 + d
      if 1 < missing then some (.code (missing - 1) value, [])
      else if value.isValidChar then some (.plain, [Char.ofNat value])
      else none
  | _ =>
    if c = 'u' then some (.code 4 0, [])
    else if c = 'U' then some (.code 8 0, [])
    else (simpleEscape? c).map fun c => (.plain, [c])

def readBasic (place : Place) (acc : List Char) : List Char → Option (String × List Char)
  | [] => none
  | c :: rest =>
    match place with
    | .plain =>
      if c = '"' then some (String.ofList acc.reverse, rest)
      else if c = '\\' then readBasic .escape acc rest
      else if isInline c then readBasic .plain (c :: acc) rest
      else none
    | place =>
      (stepEscape place c).bind fun (place, chars) => readBasic place (chars ++ acc) rest

def readLiteral (s : List Char) : Option (String × List Char) :=
  match s.dropWhile fun c => c != '\'' && isInline c with
  | '\'' :: rest => some (String.ofList (s.takeWhile fun c => c != '\'' && isInline c), rest)
  | _ => none

def stepPlain (quote : Char) (escapes : Bool) (c : Char) : Option (Place × List Char) :=
  if c = quote then some (.quotes 1, [])
  else if escapes ∧ c = '\\' then some (.escape, [])
  else if isInline c ∨ c = '\n' then some (.plain, [c])
  else none

def stepLines (quote : Char) (escapes : Bool) (place : Place) (c : Char) :
    Option (Place × List Char) :=
  match place with
  | .plain => stepPlain quote escapes c
  | .fold => if c = '\n' then some (.folded, []) else if isBlank c then some (.fold, []) else none
  | .folded =>
    if c = '\n' ∨ isBlank c then some (.folded, []) else stepPlain quote escapes c
  | .quotes n =>
    if c = quote then some (.quotes (n + 1), [])
    else (stepPlain quote escapes c).map fun (place, chars) =>
      (place, chars ++ List.replicate n quote)
  | .escape =>
    if c = '\n' then some (.folded, []) else if isBlank c then some (.fold, [])
    else stepEscape place c
  | .code .. => stepEscape place c

/-- The text whose last quotes have been read: three end it, and up to two more belong to it. -/
def closeLines (quote : Char) (n : Nat) (acc : List Char) : String :=
  String.ofList (List.replicate (n - 3) quote ++ acc).reverse

def readLines (quote : Char) (escapes : Bool) (place : Place) (acc : List Char) :
    List Char → Option (String × List Char)
  | [] =>
    match place with
    | .quotes n => if 3 ≤ n then some (closeLines quote n acc, []) else none
    | _ => none
  | c :: rest =>
    let closed := match place with
      | .quotes n => if 3 ≤ n ∧ (5 ≤ n ∨ c ≠ quote) then some n else none
      | _ => none
    match closed with
    | some n => some (closeLines quote n acc, c :: rest)
    | none =>
      (stepLines quote escapes place c).bind fun (place, chars) =>
        readLines quote escapes place (chars ++ acc) rest

/-- A line break just behind the opening quotes does not count. -/
def dropFirstBreak : List Char → List Char
  | '\n' :: rest => rest
  | s => s

def readText : List Char → Option (String × List Char)
  | '"' :: '"' :: '"' :: rest => readLines '"' true .plain [] (dropFirstBreak rest)
  | '\'' :: '\'' :: '\'' :: rest => readLines '\'' false .plain [] (dropFirstBreak rest)
  | '"' :: rest => readBasic .plain [] rest
  | '\'' :: rest => readLiteral rest
  | _ => none

def isBare (c : Char) : Bool := c.isAlphanum || c == '_' || c == '-'

def readSimpleKey (s : List Char) : Option (String × List Char) :=
  match s with
  | '"' :: rest => readBasic .plain [] rest
  | '\'' :: rest => readLiteral rest
  | _ =>
    let name := s.takeWhile isBare
    if name.isEmpty then none else some (String.ofList name, s.dropWhile isBare)

def readKeys (limit : Nat) (s : List Char) : Option (List String × List Char) :=
  match limit with
  | 0 => none
  | limit + 1 =>
    (readSimpleKey (skipBlanks s)).bind fun (key, rest) =>
      match skipBlanks rest with
      | '.' :: rest => (readKeys limit rest).map fun (keys, rest) => (key :: keys, rest)
      | rest => some ([key], rest)

def levelLimit : Nat := 79

def readKey (s : List Char) : Option ((List String × String) × List Char) :=
  (readKeys levelLimit s).bind fun (keys, rest) =>
    keys.getLast?.map fun last => ((keys.dropLast, last), rest)

end Accord.Toml
