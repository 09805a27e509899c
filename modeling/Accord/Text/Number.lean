import Accord.Binary64

namespace Accord.Text

def digitsValue (digits : List Char) : Nat :=
  digits.foldl (fun n c => n * 10 + (c.toNat - 48)) 0

def natural? (s : List Char) : Option Nat :=
  if !s.isEmpty && s.all Char.isDigit then some (digitsValue s) else none

def takeSign : List Char → Bool × List Char
  | '-' :: rest => (true, rest)
  | '+' :: rest => (false, rest)
  | s => (false, s)

def int64? (s : String) : Option Int :=
  let (negative, digits) := takeSign s.toList
  match natural? digits with
  | some n =>
    if negative then (if n ≤ signedLimit then some (-(n : Int)) else none)
    else if n < signedLimit then some n else none
  | none => none

def uint64? (s : String) : Option Nat :=
  let digits := match s.toList with
    | '+' :: rest => rest
    | s => s
  (natural? digits).filter (· < unsignedLimit)

def decimalExponent? : List Char → Option Int
  | [] => some 0
  | c :: rest =>
    if c = 'e' ∨ c = 'E' then
      let (negative, digits) := takeSign rest
      (natural? digits).map fun n => if negative then -(n : Int) else n
    else none

def binary64? (s : String) : Option Binary64 :=
  let (negative, rest) := takeSign s.toList
  let whole := rest.takeWhile Char.isDigit
  let rest := rest.dropWhile Char.isDigit
  let (fraction, rest) := match rest with
    | '.' :: rest => (rest.takeWhile Char.isDigit, rest.dropWhile Char.isDigit)
    | _ => ([], rest)
  if whole.isEmpty && fraction.isEmpty then none
  else
    (decimalExponent? rest).bind fun exponent =>
      Binary64.ofDecimal? negative (digitsValue (whole ++ fraction)) (exponent - fraction.length)

end Accord.Text
