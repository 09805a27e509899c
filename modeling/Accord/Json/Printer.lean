import Accord.Decimal
import Accord.Json.Basic

namespace Accord.Json

def hexByte (n : Nat) : String :=
  String.ofList [Nat.digitChar (n / 16 % 16), Nat.digitChar (n % 16)]

def escapeChar (c : Char) : String :=
  if c = '"' then "\\\""
  else if c = '\\' then "\\\\"
  else if c = '\n' then "\\n"
  else if c = '\r' then "\\r"
  else if c = '\t' then "\\t"
  else if c.toNat = 8 then "\\b"
  else if c.toNat = 12 then "\\f"
  else if c.toNat < 32 then "\\u00" ++ hexByte c.toNat
  else c.toString

def quote (s : String) : String :=
  s.toList.foldl (fun text c => text ++ escapeChar c) "\"" ++ "\""

mutual

def appendTo (text : String) : Json → String
  | null => text ++ "null"
  | bool b => text ++ (if b then "true" else "false")
  | int n => text ++ toString n
  | float x => text ++ Decimal.write Decimal.json x
  | string s => text ++ quote s
  | array items => appendItems (text ++ "[") true items ++ "]"
  | object members => appendMembers (text ++ "\x7b") true members ++ "\x7d"
termination_by structural v => v

def appendItems (text : String) (first : Bool) : List Json → String
  | [] => text
  | x :: xs => appendItems (appendTo (if first then text else text ++ ",") x) false xs
termination_by structural xs => xs

def appendMembers (text : String) (first : Bool) : List (String × Json) → String
  | [] => text
  | (k, v) :: ms =>
    let text := if first then text else text ++ ","
    appendMembers (appendTo (text ++ quote k ++ ":") v) false ms
termination_by structural ms => ms

end

def render (v : Json) : String := appendTo "" v

end Accord.Json
