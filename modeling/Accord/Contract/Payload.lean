import Accord.Contract.Basic

namespace Accord

structure EndpointOptions (m : Type → Type) where
  validateResponses : Option Bool := none
  errorHandler : Option (ErrorHandler m) := none
  allowCustomMethods : Bool := false
  skippedRules : List BodyRule := []
  /-- Parsers of its own; none at all are as good as not said. -/
  parsers : Option BodyParsers := none
  renderers : Option Renderers := none
  auth : AuthPolicy m := .unsaid
  summary : Option String := none
  description : Option String := none
  tags : Option (List String) := none
  operationId : Option String := none
  deprecated : Bool := false

structure RawResponse where
  returnType : Schema
  /-- Inferred from the method if it is not said. -/
  status : Option Status := none
  headers : Option (Named HeaderEntry) := none
  cookies : Option (Named CookieEntry) := none

/-- The declaration of an endpoint. Its handler gives raw data if it says how that becomes a response,
else responses. -/
structure Payload (m : Type → Type) where
  raw? : Option RawResponse := none
  responses : List ResponseSpec := []
  options : EndpointOptions m := {}

structure EndpointDefaults (m : Type → Type) where
  responses : List ResponseSpec := []
  parsers : BodyParsers := []
  renderers : Renderers := []
  auth : AuthPolicy m := .unsaid
  validateResponses : Bool := true
  skippedRules : List BodyRule := []
  allowedMethods : List String := []

end Accord
