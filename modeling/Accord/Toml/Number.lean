import Accord.Toml.Text

namespace Accord.Toml

/-- Digits behind a first one; single underscores may stand between them. -/
def moreDigits (isDigit : Char → Bool) (acc : List Char) : List Char → Option (List Char × List Char)
  | '_' :: c :: rest => if isDigit c then moreDigits isDigit (c :: acc) rest else none
  | ['_'] => none
  | c :: rest => if isDigit c then moreDigits isDigit (c :: acc) rest else some (acc.reverse, c :: rest)
  | [] => some (acc.reverse, [])

def readDigits (isDigit : Char → Bool) : List Char → Option (List Char × List Char)
  | c :: rest => if isDigit c then moreDigits isDigit [c] rest else none
  | [] => none

/-- Digits that start with a zero only if there is no other. -/
def readWhole : List Char → Option (List Char × List Char)
  | '0' :: rest => some (['0'], rest)
  | s => readDigits Char.isDigit s

def int64? (negative : Bool) (n : Nat) : Option Json :=
  if negative then (if n ≤ signedLimit then some (.int (-(n : Int))) else none)
  else if n < signedLimit then some (.int n) else none

def readInteger (s : List Char) : Option (Json × List Char) :=
  let (negative, rest) := Text.takeSign s
  (readWhole rest).bind fun (digits, rest) =>
    (int64? negative (Text.digitsValue digits)).map fun v => (v, rest)

def readRadix (base : Nat) (s : List Char) : Option (Json × List Char) :=
  let isDigit := fun c => (hexDigit? c).any (· < base)
  (readDigits isDigit s).bind fun (digits, rest) =>
    let value := digits.foldl (fun n c => n * base + (hexDigit? c).getD 0) 0
    (int64? false value).map fun v => (v, rest)

def readFraction : List Char → Option (List Char × List Char)
  | '.' :: rest => readDigits Char.isDigit rest
  | s => some ([], s)

def readExponent : List Char → Option (Int × List Char)
  | c :: rest =>
    if c = 'e' ∨ c = 'E' then
      let (negative, rest) := Text.takeSign rest
      (readDigits Char.isDigit rest).map fun (digits, rest) =>
        let n := Text.digitsValue digits
        (if negative then -(n : Int) else n, rest)
    else some (0, c :: rest)
  | [] => some (0, [])

/-- A number with a point or an exponent. One that is too large is refused, but a negative one is no
number. -/
def readFloat (s : List Char) : Option (Json × List Char) := do
  let (negative, rest) := Text.takeSign s
  let (whole, rest) ← readWhole rest
  let (fraction, tail) ← readFraction rest
  let (exponent, tail) ← readExponent tail
  if tail.length = rest.length then none
  else
    match Binary64.ofDecimal? negative (Text.digitsValue (whole ++ fraction))
        (exponent - fraction.length) with
    | some x => return (.float x, tail)
    | none => if negative then return (.null, tail) else none

/-- What is infinite or no number at all has no JSON value. -/
def readSpecial (s : List Char) : Option (Json × List Char) :=
  match (Text.takeSign s).2 with
  | 'i' :: 'n' :: 'f' :: rest => some (.null, rest)
  | 'n' :: 'a' :: 'n' :: rest => some (.null, rest)
  | _ => none

def readField (n : Nat) (s : List Char) : Option (Nat × List Char) :=
  (Text.natural? (s.take n)).bind fun value =>
    if (s.take n).length = n then some (value, s.drop n) else none

def readSeparator (c : Char) (s : List Char) : Option (List Char) :=
  if s.head? = some c then some s.tail else none

def monthLength (year month : Nat) : Nat :=
  if month = 2 then (if year % 4 = 0 ∧ (year % 100 ≠ 0 ∨ year % 400 = 0) then 29 else 28)
  else if [4, 6, 9, 11].contains month then 30
  else 31

def skipDate (s : List Char) : Option (List Char) := do
  let (year, s) ← readField 4 s
  let (month, s) ← readField 2 (← readSeparator '-' s)
  let (day, s) ← readField 2 (← readSeparator '-' s)
  guard (1 ≤ month ∧ month ≤ 12 ∧ 1 ≤ day ∧ day ≤ monthLength year month)
  return s

def skipClock (s : List Char) : Option (List Char) := do
  let (hour, s) ← readField 2 s
  let (minute, s) ← readField 2 (← readSeparator ':' s)
  guard (hour ≤ 23 ∧ minute ≤ 59)
  return s

def skipTime (s : List Char) : Option (List Char) := do
  let (second, s) ← readField 2 (← readSeparator ':' (← skipClock s))
  guard (second ≤ 60)
  match s with
  | '.' :: c :: rest => if c.isDigit then return rest.dropWhile Char.isDigit else return s
  | _ => return s

def skipOffset (s : List Char) : List Char :=
  match s with
  | c :: rest =>
    if c = 'Z' ∨ c = 'z' then rest
    else if c = '+' ∨ c = '-' then (skipClock rest).getD s
    else s
  | [] => s

/-- What follows a time and its offset behind a date, if there is one. -/
def skipTimeOfDate (s : List Char) : List Char :=
  match s with
  | c :: rest =>
    if c = 'T' ∨ c = 't' ∨ c = ' ' then ((skipTime rest).map skipOffset).getD s else s
  | [] => s

/-- A date, a time or both, as an object with the text. -/
def readMoment (s : List Char) : Option (Json × List Char) :=
  let rest? := match skipDate s with
    | some rest => some (skipTimeOfDate rest)
    | none => skipTime s
  rest?.map fun rest =>
    let text := String.ofList (s.take (s.length - rest.length))
    (.object [("$__toml_private_datetime", .string text)], rest)

def readNumber (s : List Char) : Option (Json × List Char) :=
  match s with
  | '0' :: 'x' :: rest => readRadix 16 rest
  | '0' :: 'o' :: rest => readRadix 8 rest
  | '0' :: 'b' :: rest => readRadix 2 rest
  | _ =>
    match readMoment s with
    | some result => some result
    | none =>
      match readFloat s with
      | some result => some result
      | none =>
        match readSpecial s with
        | some result => some result
        | none => readInteger s

end Accord.Toml
