import Accord.Power

namespace Accord

/-- A finite double: `± units · 2⁻¹⁰⁷⁴`. -/
structure Binary64 where
  negative : Bool
  units : Nat
  deriving DecidableEq, Repr, Inhabited

namespace Binary64

def unitsOfOne : Nat := pow2 1074

/-- The value counted in units, with its sign; the two zeros have one value. -/
def signed (x : Binary64) : Int := if x.negative then -(x.units : Int) else x.units

instance : LE Binary64 := ⟨fun x y => x.signed ≤ y.signed⟩
instance : LT Binary64 := ⟨fun x y => x.signed < y.signed⟩

instance (x y : Binary64) : Decidable (x ≤ y) := inferInstanceAs (Decidable (x.signed ≤ y.signed))
instance (x y : Binary64) : Decidable (x < y) := inferInstanceAs (Decidable (x.signed < y.signed))

def sameValue (x y : Binary64) : Bool := x.signed == y.signed

/-- The quotient rounded to the nearest integer, a half to the even one. -/
def roundHalfEven (num den : Nat) : Nat :=
  let q := num / den
  let r := num % den
  if 2 * r < den then q
  else if den < 2 * r then q + 1
  else if q % 2 = 0 then q else q + 1

/-- The representable magnitude nearest to `num / den` units: 53 significant bits are kept. -/
def roundUnits (num den : Nat) : Nat :=
  let shift := Nat.log2 (num / den) - 52
  roundHalfEven num (den * pow2 shift) * pow2 shift

def overflowUnits : Nat := pow2 2098

def ofUnits? (negative : Bool) (units : Nat) : Option Binary64 :=
  if units < overflowUnits then some ⟨negative, units⟩ else none

def zero : Binary64 := ⟨false, 0⟩

def one : Binary64 := ⟨false, unitsOfOne⟩

def negate (x : Binary64) : Binary64 := ⟨!x.negative, x.units⟩

def ofInt (n : Int) : Binary64 := ⟨n < 0, roundUnits (n.natAbs * unitsOfOne) 1⟩

/-- The double nearest to `digits · 10^exponent`, or nothing when it is too large. -/
def ofDecimal? (negative : Bool) (digits : Nat) (exponent : Int) : Option Binary64 :=
  if digits = 0 then some ⟨negative, 0⟩
  else
    let magnitude := exponent + (Nat.toDigits 10 digits).length
    if magnitude > 400 then none
    else if magnitude < -400 then some ⟨negative, 0⟩
    else if exponent < 0 then
      ofUnits? negative (roundUnits (digits * unitsOfOne) (pow10 exponent.natAbs))
    else
      ofUnits? negative (roundUnits (digits * pow10 exponent.natAbs * unitsOfOne) 1)

def mulUnits (x y : Nat) : Nat := roundUnits (x * y) unitsOfOne

def divUnits (x y : Nat) : Nat := roundUnits (x * unitsOfOne) y

def isIntegral (x : Binary64) : Bool := x.units % unitsOfOne == 0

def truncate (x : Binary64) : Int :=
  if x.negative then -((x.units / unitsOfOne : Nat) : Int) else (x.units / unitsOfOne : Nat)

/-- The binary scale of the last place: the magnitude is a multiple of `2 ^ lastPlace` units. -/
def lastPlace (x : Binary64) : Nat := Nat.log2 x.units - 52

end Binary64

end Accord
