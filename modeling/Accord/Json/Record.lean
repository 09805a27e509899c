import Accord.Json.Basic

namespace Accord.Json

/-- The fields that are given, in written order. -/
def record? (names : List String) : Json → Option (List (String × Json))
  | object members =>
    let known := members.filter fun (key, _) => names.contains key
    if (known.map Prod.fst).Nodup then some known else none
  | array items => if items.length ≤ names.length then some (names.zip items) else none
  | _ => none

def optional? {α : Type} (read : Json → Option α) : Option Json → Option (Option α)
  | none => some none
  | some null => some none
  | some v => (read v).map some

def orDefault? {α : Type} (default : α) (read : Json → Option α) : Option Json → Option α
  | none => some default
  | some v => read v

def bool? : Json → Option Bool
  | bool b => some b
  | _ => none

def uint64? : Json → Option UInt64
  | int n => if 0 ≤ n ∧ n < unsignedLimit then some (UInt64.ofNat n.toNat) else none
  | _ => none

def items? : Json → Option (List Json)
  | array items => some items
  | _ => none

def strings? (v : Json) : Option (List String) := v.items?.bind fun items => items.mapM string?

end Accord.Json
