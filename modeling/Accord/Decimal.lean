import Accord.Binary64

namespace Accord

structure Decimal where
  digits : Nat
  exponent : Int
  deriving DecidableEq, Repr, Inhabited

namespace Decimal

/-- Four times the ends of the range of magnitudes that round to `x`, and whether the ends belong
to it. -/
def roundingRange (x : Binary64) : Nat × Nat × Bool :=
  let gap := pow2 x.lastPlace
  let mantissa := x.units / gap
  let below := if mantissa = pow2 52 ∧ 1 < gap then gap else 2 * gap
  (4 * x.units - below, 4 * x.units + 2 * gap, mantissa % 2 == 0)

def leadingExponent (units : Nat) : Int :=
  (Nat.toDigits 10 (units * pow10 400 / Binary64.unitsOfOne)).length - 401

def scaled (units : Nat) (exponent : Int) : Nat × Nat :=
  if exponent < 0 then (units * pow10 exponent.natAbs, Binary64.unitsOfOne)
  else (units, Binary64.unitsOfOne * pow10 exponent.natAbs)

def readsBack (x : Binary64) (m : Nat) (exponent : Int) : Bool :=
  let (low, high, closed) := roundingRange x
  let (den, num) := scaled 1 exponent
  let point := 4 * m * num
  let low := low * den
  let high := high * den
  (low < point && point < high) || (closed && (point == low || point == high))

/-- The point of the grid `10^exponent` that reads back as `x` and is nearest to it, a tie going to
the even one. -/
def gridPoint? (x : Binary64) (exponent : Int) : Option Nat :=
  let (num, den) := scaled x.units exponent
  let m := num / den
  let r := num % den
  let upFirst := den < 2 * r || (2 * r == den && m % 2 == 1)
  let (first, second) := if upFirst then (m + 1, m) else (m, m + 1)
  if readsBack x first exponent then some first
  else if readsBack x second exponent then some second
  else none

/-- Moves trailing zeros of the digits into the exponent; at most `fuel` of them. -/
def dropZeros : Nat → Decimal → Decimal
  | 0, d => d
  | fuel + 1, d =>
    if d.digits ≠ 0 ∧ d.digits % 10 = 0 then dropZeros fuel ⟨d.digits / 10, d.exponent + 1⟩ else d

/-- The magnitude with the fewest digits that reads back as `x`, of those the nearest. -/
def shortest (x : Binary64) : Decimal :=
  if x.units = 0 then ⟨0, 0⟩
  else
    let lead := leadingExponent x.units
    let found := (List.range 17).findSome? fun (places : Nat) =>
      (gridPoint? x (lead - places)).map fun m => (⟨m, lead - places⟩ : Decimal)
    dropZeros 20 (found.getD ⟨0, 0⟩)

structure Layout where
  leastPositional : Option Int
  greatestPositional : Option Int
  wholeSuffix : String

def positional (wholeSuffix : String) (d : Decimal) : String :=
  let digits := Nat.toDigits 10 d.digits
  if 0 ≤ d.exponent then
    String.ofList (digits ++ List.replicate d.exponent.toNat '0') ++ wholeSuffix
  else
    let places := d.exponent.natAbs
    let padded := List.replicate (places + 1 - digits.length) '0' ++ digits
    String.ofList (padded.take (padded.length - places)) ++ "." ++
      String.ofList (padded.drop (padded.length - places))

def scientific (d : Decimal) (lead : Int) : String :=
  let mantissa := match Nat.toDigits 10 d.digits with
    | [] => "0"
    | [c] => c.toString
    | c :: rest => c.toString ++ "." ++ String.ofList rest
  mantissa ++ (if lead < 0 then "e-" else "e+") ++ toString lead.natAbs

def write (layout : Layout) (x : Binary64) : String :=
  let d := shortest x
  let lead := d.exponent + (Nat.toDigits 10 d.digits).length - 1
  let small := layout.leastPositional.any (lead < ·)
  let large := layout.greatestPositional.any (· < lead)
  let text := if d.digits ≠ 0 ∧ (small ∨ large) then scientific d lead
    else positional layout.wholeSuffix d
  if x.negative then "-" ++ text else text

/-- JSON writes a point always, and an exponent outside `10⁻⁵ … 10¹⁶`. -/
def json : Layout := ⟨some (-5), some 15, ".0"⟩

/-- Messages write no exponent, and whole numbers without a point. -/
def plain : Layout := ⟨none, none, ""⟩

end Decimal

end Accord
