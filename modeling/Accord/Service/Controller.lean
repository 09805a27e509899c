import Accord.Service.Endpoint

namespace Accord

structure Controller (m : Type → Type) where
  name : String
  endpoints : Named (Endpoint m) := []

namespace Controller

variable {m : Type → Type}

def allowedMethods (c : Controller m) : List String := c.endpoints.names.map Text.asciiUpper

def endpointFor? (c : Controller m) (r : Request) : Option (Endpoint m) :=
  c.endpoints.lookup (Text.asciiLower r.method)

def refuse (c : Controller m) (r : Request) : Response :=
  let allowed := c.allowedMethods
  let detail : Detail := {
    message := "Method " ++ r.method ++ " is not allowed, allowed: " ++ Text.showList allowed
    path := none
    kind := "not_allowed" }
  let response := Response.json .methodNotAllowed (Failure.listing [detail])
  match response.withHeader "allow" (Text.utf8 (Text.join ", " allowed)) with
  | .ok response => response
  | .error _ => { status := .methodNotAllowed }

def dispatch [Monad m] [Deciding m] (c : Controller m) (r : Request) (d : Decisions := {}) : m Response :=
  match c.endpointFor? r with
  | some e => e.serve r d
  | none => pure (c.refuse r)

end Controller

end Accord
