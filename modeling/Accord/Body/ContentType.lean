import Accord.Message.Syntax

namespace Accord

/-- A content type; all but the values of parameters is in lower case, and so is a `charset`. -/
structure ContentType where
  main : String
  sub : String
  params : List (String × String)
  deriving DecidableEq, Repr, Inhabited

namespace ContentType

def octets : ContentType := ⟨"application", "octet-stream", []⟩

def essence (c : ContentType) : String := c.main ++ "/" ++ c.sub

def kind (c : ContentType) : String :=
  match c.sub.toList with
  | [] => ""
  | first :: rest =>
    if rest.contains '+' then
      String.ofList (first :: ((rest.reverse.dropWhile (· != '+')).drop 1).reverse)
    else c.sub

def param? (name : String) (c : ContentType) : Option String := c.params.lookup name

def readQuoted (rest : List Char) : Option (List Char × List Char) :=
  let isInside := fun (c : Char) => 31 < c.toNat && c.toNat != 127
  match rest with
  | first :: rest =>
    if !isInside first then none
    else
      let value := rest.takeWhile fun c => c != '"' && isInside c
      match rest.dropWhile fun c => c != '"' && isInside c with
      | '"' :: rest => some (first :: value, rest)
      | _ => none
  | [] => none

def readValue (rest : List Char) : Option (List Char × List Char) :=
  match rest with
  | '"' :: rest =>
    (readQuoted rest).bind fun (value, rest) =>
      match rest.dropWhile (· == ' ') with
      | [] => some (value, [])
      | ';' :: rest => some (value, rest)
      | _ => none
  | _ =>
    let value := rest.takeWhile Message.isTokenChar
    match rest.dropWhile Message.isTokenChar with
    | [] => some (value, [])
    | ';' :: rest => if value.isEmpty then none else some (value, rest)
    | _ => none

def readParams (fuel : Nat) (rest : List Char) : Option (List (String × String)) :=
  match fuel, rest.dropWhile (· == ' ') with
  | _, [] => some []
  | 0, _ => none
  | fuel + 1, rest =>
    let name := rest.takeWhile Message.isTokenChar
    match rest.dropWhile Message.isTokenChar with
    | '=' :: rest =>
      if name.isEmpty then none
      else (readValue rest).bind fun (value, rest) =>
        let name := String.ofList (name.map Char.toLower)
        let value := if name = "charset" then value.map Char.toLower else value
        (readParams fuel rest).map ((name, String.ofList value) :: ·)
    | _ => none

def readToken (s : List Char) : Option (String × List Char) :=
  let token := s.takeWhile Message.isTokenChar
  if token.isEmpty then none
  else some (String.ofList (token.map Char.toLower), s.dropWhile Message.isTokenChar)

def read? (text : String) : Option ContentType := do
  let (main, rest) ← readToken text.toList
  match rest with
  | ['/'] => return ⟨main, "", []⟩
  | '/' :: rest =>
    let (sub, rest) ← readToken rest
    match rest with
    | [] => return ⟨main, sub, []⟩
    | ';' :: rest => return ⟨main, sub, ← readParams rest.length rest⟩
    | _ => none
  | _ => none

end ContentType

end Accord
