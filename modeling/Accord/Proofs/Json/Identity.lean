import Accord.Json.Basic

namespace Accord

def Binary64.unsignZero (x : Binary64) : Binary64 := ⟨decide (x.signed < 0), x.signed.natAbs⟩

theorem Binary64.sameValue_iff {x y : Binary64} :
    x.sameValue y = true ↔ x.unsignZero = y.unsignZero := by
  rw [sameValue, beq_iff_eq, unsignZero, unsignZero, mk.injEq, decide_eq_decide]
  omega

namespace Json

mutual

def identical : Json → Json → Bool
  | null, null => true
  | bool a, bool b => a == b
  | int a, int b => a == b
  | float a, float b => a == b
  | string a, string b => a == b
  | array xs, array ys => identicalItems xs ys
  | object ms, object ns => identicalMembers ms ns
  | _, _ => false
termination_by structural v => v

def identicalItems : List Json → List Json → Bool
  | [], [] => true
  | x :: xs, y :: ys => identical x y && identicalItems xs ys
  | _, _ => false
termination_by structural xs => xs

def identicalMembers : List (String × Json) → List (String × Json) → Bool
  | [], [] => true
  | (k, x) :: ms, (l, y) :: ns => k == l && identical x y && identicalMembers ms ns
  | _, _ => false
termination_by structural ms => ms

end

mutual

theorem identical_self : ∀ v : Json, identical v v = true
  | null => rfl
  | bool a => beq_self_eq_true a
  | int a => beq_self_eq_true a
  | float a => beq_self_eq_true a
  | string a => beq_self_eq_true a
  | array xs => identicalItems_self xs
  | object ms => identicalMembers_self ms
termination_by structural v => v

theorem identicalItems_self : ∀ xs : List Json, identicalItems xs xs = true
  | [] => rfl
  | x :: xs => by rw [identicalItems, identical_self x, identicalItems_self xs, Bool.and_true]
termination_by structural xs => xs

theorem identicalMembers_self : ∀ ms : List (String × Json), identicalMembers ms ms = true
  | [] => rfl
  | (k, v) :: ms => by
    rw [identicalMembers, identical_self v, identicalMembers_self ms, beq_self_eq_true]
    rfl
termination_by structural ms => ms

end

mutual

theorem eq_of_identical : ∀ {v w : Json}, identical v w = true → v = w
  | null, w, h => by cases w <;> first | rfl | cases h
  | bool a, w, h => by
    cases w <;> first | cases h | exact congrArg bool (eq_of_beq h)
  | int a, w, h => by
    cases w <;> first | cases h | exact congrArg int (eq_of_beq h)
  | float a, w, h => by
    cases w <;> first | cases h | exact congrArg float (eq_of_beq h)
  | string a, w, h => by
    cases w <;> first | cases h | exact congrArg string (eq_of_beq h)
  | array xs, w, h => by
    cases w <;> first | cases h | exact congrArg array (eq_of_identicalItems h)
  | object ms, w, h => by
    cases w <;> first | cases h | exact congrArg object (eq_of_identicalMembers h)
termination_by structural v => v

theorem eq_of_identicalItems : ∀ {xs ys : List Json}, identicalItems xs ys = true → xs = ys
  | [], ys, h => by cases ys <;> first | rfl | cases h
  | x :: xs, ys, h => by
    cases ys with
    | nil => cases h
    | cons y ys =>
      obtain ⟨hx, hxs⟩ := Bool.and_eq_true_iff.mp h
      rw [eq_of_identical hx, eq_of_identicalItems hxs]
termination_by structural xs => xs

theorem eq_of_identicalMembers : ∀ {ms ns : List (String × Json)},
    identicalMembers ms ns = true → ms = ns
  | [], ns, h => by cases ns <;> first | rfl | cases h
  | (k, v) :: ms, ns, h => by
    cases ns with
    | nil => cases h
    | cons n ns =>
      obtain ⟨hhead, hms⟩ := Bool.and_eq_true_iff.mp h
      obtain ⟨hk, hv⟩ := Bool.and_eq_true_iff.mp hhead
      rw [eq_of_beq hk, eq_of_identical hv, eq_of_identicalMembers hms]
termination_by structural ms => ms

end

theorem identical_iff {v w : Json} : identical v w = true ↔ v = w :=
  ⟨eq_of_identical, fun h => h ▸ identical_self v⟩

instance : DecidableEq Json := fun _ _ => decidable_of_iff _ identical_iff

deriving instance DecidableEq for Except

mutual

def unsignZeros : Json → Json
  | float x => float x.unsignZero
  | array items => array (unsignZerosOfItems items)
  | object members => object (unsignZerosOfMembers members)
  | v => v
termination_by structural v => v

def unsignZerosOfItems : List Json → List Json
  | [] => []
  | x :: xs => unsignZeros x :: unsignZerosOfItems xs
termination_by structural xs => xs

def unsignZerosOfMembers : List (String × Json) → List (String × Json)
  | [] => []
  | (k, v) :: ms => (k, unsignZeros v) :: unsignZerosOfMembers ms
termination_by structural ms => ms

end

mutual

theorem same_iff : ∀ v w : Json, same v w = true ↔ v.unsignZeros = w.unsignZeros
  | null, w => by cases w <;> simp [same, unsignZeros]
  | bool a, w => by cases w <;> simp [same, unsignZeros]
  | int a, w => by cases w <;> simp [same, unsignZeros]
  | float a, w => by cases w <;> simp [same, unsignZeros, Binary64.sameValue_iff]
  | string a, w => by cases w <;> simp [same, unsignZeros]
  | array xs, w => by cases w <;> simp [same, unsignZeros, sameItems_iff xs]
  | object ms, w => by cases w <;> simp [same, unsignZeros, sameMembers_iff ms]
termination_by structural v => v

theorem sameItems_iff : ∀ xs ys : List Json,
    sameItems xs ys = true ↔ unsignZerosOfItems xs = unsignZerosOfItems ys
  | [], ys => by cases ys <;> simp [sameItems, unsignZerosOfItems]
  | x :: xs, ys => by
    cases ys <;> simp [sameItems, unsignZerosOfItems, same_iff x, sameItems_iff xs]
termination_by structural xs => xs

theorem sameMembers_iff : ∀ ms ns : List (String × Json),
    sameMembers ms ns = true ↔ unsignZerosOfMembers ms = unsignZerosOfMembers ns
  | [], ns => by cases ns <;> simp [sameMembers, unsignZerosOfMembers]
  | (k, v) :: ms, ns => by
    cases ns <;> simp [sameMembers, unsignZerosOfMembers, same_iff v, sameMembers_iff ms, and_assoc]
termination_by structural ms => ms

end

end Json

end Accord
