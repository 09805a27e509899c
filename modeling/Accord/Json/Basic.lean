import Accord.Binary64

namespace Accord

inductive Json where
  | null
  | bool (b : Bool)
  | int (n : Int)
  | float (x : Binary64)
  | string (s : String)
  | array (items : List Json)
  | object (members : List (String × Json))
  deriving Repr, Inhabited

namespace Json

mutual

/-- Equality of values: integers and floats differ, the two zero floats do not. -/
def same : Json → Json → Bool
  | null, null => true
  | bool a, bool b => a == b
  | int a, int b => a == b
  | float a, float b => a.sameValue b
  | string a, string b => a == b
  | array xs, array ys => sameItems xs ys
  | object ms, object ns => sameMembers ms ns
  | _, _ => false
termination_by structural v => v

def sameItems : List Json → List Json → Bool
  | [], [] => true
  | x :: xs, y :: ys => same x y && sameItems xs ys
  | _, _ => false
termination_by structural xs => xs

def sameMembers : List (String × Json) → List (String × Json) → Bool
  | [], [] => true
  | (k, x) :: ms, (l, y) :: ns => k == l && same x y && sameMembers ms ns
  | _, _ => false
termination_by structural ms => ms

end

instance : BEq Json := ⟨same⟩

def insertMember (key : String) (value : Json) : List (String × Json) → List (String × Json)
  | [] => [(key, value)]
  | (k, v) :: rest =>
    if key = k then (key, value) :: rest
    else if key < k then (key, value) :: (k, v) :: rest
    else (k, v) :: insertMember key value rest

def sortMembers (members : List (String × Json)) : List (String × Json) :=
  members.foldl (fun sorted (key, value) => insertMember key value sorted) []

def ofMembers (members : List (String × Json)) : Json := .object (sortMembers members)

mutual

def normalize : Json → Json
  | array items => array (normalizeItems items)
  | object members => object (sortMembers (normalizeMembers members))
  | v => v
termination_by structural v => v

def normalizeItems : List Json → List Json
  | [] => []
  | x :: xs => normalize x :: normalizeItems xs
termination_by structural xs => xs

def normalizeMembers : List (String × Json) → List (String × Json)
  | [] => []
  | (k, v) :: ms => (k, normalize v) :: normalizeMembers ms
termination_by structural ms => ms

end

mutual

/-- The levels of lists and objects, a value without parts being one level. -/
def depth : Json → Nat
  | array items => itemsDepth items + 1
  | object members => membersDepth members + 1
  | _ => 1
termination_by structural v => v

def itemsDepth : List Json → Nat
  | [] => 0
  | x :: xs => max (depth x) (itemsDepth xs)
termination_by structural xs => xs

def membersDepth : List (String × Json) → Nat
  | [] => 0
  | (_, v) :: ms => max (depth v) (membersDepth ms)
termination_by structural ms => ms

end

def get? (key : String) : Json → Option Json
  | object members => members.lookup key
  | _ => none

def isNull : Json → Bool
  | null => true
  | _ => false

def string? : Json → Option String
  | string s => some s
  | _ => none

def members? : Json → Option (List (String × Json))
  | object members => some members
  | _ => none

def int64? : Json → Option Int
  | int n => if -(signedLimit : Int) ≤ n ∧ n < signedLimit then some n else none
  | _ => none

def binary64? : Json → Option Binary64
  | int n => some (Binary64.ofInt n)
  | float x => some x
  | _ => none

def ofNat (n : Nat) : Json := int n

def ofOption {α : Type} (f : α → Json) : Option α → Json
  | none => null
  | some a => f a

def strings (texts : List String) : Json := array (texts.map string)

end Json

end Accord
