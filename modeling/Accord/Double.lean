import Accord.Decimal

namespace Accord

/-- Any double: some are no numbers, and compare with nothing, and some are infinite. -/
inductive Double where
  | nan
  | infinite (negative : Bool)
  | finite (x : Binary64)
  deriving DecidableEq, Repr, Inhabited

namespace Double

instance : Coe Binary64 Double := ⟨finite⟩

def finite? : Double → Option Binary64
  | finite x => some x
  | _ => none

/-- Where a double stands: below, among or above the finite ones, and its value among these. -/
def place? : Double → Option (Int × Int)
  | nan => none
  | infinite negative => some (if negative then -1 else 1, 0)
  | finite x => some (0, x.signed)

/-- How two doubles compare, if both are numbers. -/
def compare? (x y : Double) : Option Ordering :=
  match x.place?, y.place? with
  | some (side, value), some (side', value') => some ((compare side side').then (compare value value'))
  | _, _ => none

def atMost (x y : Double) : Bool := (x.compare? y).any Ordering.isLE

def below (x y : Double) : Bool := (x.compare? y).any Ordering.isLT

def sameValue (x y : Double) : Bool := (x.compare? y).any Ordering.isEq

instance : LE Double := ⟨fun x y => x.atMost y = true⟩

def write (layout : Decimal.Layout) : Double → String
  | nan => "NaN"
  | infinite negative => if negative then "-inf" else "inf"
  | finite x => Decimal.write layout x

end Double

end Accord
