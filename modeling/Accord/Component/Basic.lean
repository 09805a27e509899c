import Accord.Negotiation.Decisions

namespace Accord

structure Component where
  className : String
  contextName : String
  /-- The data of the component in a request, unchecked. -/
  extract : BodyParsers → Request → Schema → Serving Json
  conditionalTypes : Schema → Named Schema := fun _ => []
  checkParsers : BodyParsers → Except Failure Unit := fun _ => .ok ()
  failures : List (Status × String) :=
    [(.badRequest, "Raised when request components cannot be parsed")]

structure ComponentSpec where
  component : Component
  typeArgs : List Schema

namespace ComponentSpec

def model (spec : ComponentSpec) : Schema := spec.typeArgs.headD .any

def contextName (spec : ComponentSpec) : String := spec.component.contextName

def conditionalTypes (spec : ComponentSpec) : Named Schema :=
  spec.component.conditionalTypes spec.model

end ComponentSpec

end Accord
