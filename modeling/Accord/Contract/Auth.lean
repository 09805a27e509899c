import Accord.Message.Request

namespace Accord

/-- Finds an identity, declines with none, or fails. Asking it is an effect. -/
structure AuthProvider (m : Type → Type) where
  identify : Request → m (Except Failure (Option Json))

inductive AuthPolicy (m : Type → Type) where
  | unsaid
  | disabled
  | providers (list : List (AuthProvider m))

namespace AuthPolicy

variable {m : Type → Type}

def list : AuthPolicy m → List (AuthProvider m)
  | providers list => list
  | _ => []

def isDisabled : AuthPolicy m → Bool
  | disabled => true
  | _ => false

def adding (p : AuthProvider m) : AuthPolicy m → AuthPolicy m
  | providers list => providers (list ++ [p])
  | _ => providers [p]

/-- The providers of an endpoint and of all endpoints, in this order. One level that disables them is
enough for none to be asked. -/
def combine (own shared : AuthPolicy m) : Option (List (AuthProvider m)) :=
  if own.isDisabled || shared.isDisabled then none
  else
    let all := own.list ++ shared.list
    if all.isEmpty then none else some all

end AuthPolicy

def authenticate {m : Type → Type} [Monad m] (providers : List (AuthProvider m)) (r : Request) :
    m (Except Failure Json) :=
  match providers with
  | [] => pure (.error (.notAuthenticated "Not authenticated"))
  | p :: rest => do
    match ← p.identify r with
    | .error failure => return .error failure
    | .ok (some identity) => return .ok identity
    | .ok none => authenticate rest r

end Accord
