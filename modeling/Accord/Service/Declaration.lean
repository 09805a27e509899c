import Accord.Component.Registry
import Accord.Contract.Build
import Accord.Service.Controller
import Accord.Settings.Basic

namespace Accord

structure EndpointDecl (m : Type → Type) where
  method : String
  payload : Payload m
  handler : Handler m

structure ControllerDecl (m : Type → Type) where
  name : String
  registry : Registry := .standard
  classes : List ClassDecl := []
  bases : List BaseRef := []
  serializer : Serializer := .json
  defaults : EndpointDefaults m := {}
  formParsers : Bool := false
  treatAsPost : List String := ({} : HttpSettings).treatAsPost
  strictRequests : Option Bool := none
  strictResponses : Bool := true
  errorHandler : Option (ErrorHandler m) := none
  listsMethods : Bool := false
  endpoints : List (EndpointDecl m) := []

namespace ControllerDecl

variable {m : Type → Type}

def withSettings (s : Settings) (c : ControllerDecl m) : ControllerDecl m :=
  { c with
    defaults := { c.defaults with
      validateResponses := s.validation.validateResponses
      allowedMethods := Text.sortedSet (c.defaults.allowedMethods ++ s.http.allowedMethods) }
    strictRequests := s.validation.strictRequests
    strictResponses := s.validation.strictResponses
    treatAsPost := s.http.treatAsPost }

def rootName : String := "Controller"

def rootClass : ClassDecl := { name := rootName, bases := [BaseRef.generic ["_SerializerT"]] }

def classDecl (c : ControllerDecl m) : ClassDecl :=
  { name := c.name, bases := c.bases ++ [⟨rootName, [.concrete .any]⟩] }

def graph (c : ControllerDecl m) : Except Failure ClassGraph := do
  let (g, declared) := c.registry.declareIn ClassGraph.initial
  declared
  (rootClass :: c.classes ++ [c.classDecl]).foldlM (fun g decl => g.declare decl) g

def components (c : ControllerDecl m) : Except Failure (List ComponentSpec) := do
  Discovery.components ⟨c.name, rootName, ← c.graph, c.registry⟩

/-- The parsers: JSON if there are none, and those of forms if wanted. -/
def parsers (c : ControllerDecl m) : BodyParsers :=
  let add := fun (parsers : BodyParsers) (p : BodyParser) => Named.put p.contentType p parsers
  let parsers := if c.defaults.parsers.isEmpty then add [] .json else c.defaults.parsers
  if c.formParsers then
    let methods := FormRules.methods c.treatAsPost
    add (add parsers (.form methods)) (.multipart { alsoPosted := methods })
  else parsers

def renderers (c : ControllerDecl m) : Renderers :=
  if c.defaults.renderers.isEmpty then [(Renderer.json.contentType, .json)]
  else c.defaults.renderers

def allDefaults (c : ControllerDecl m) : EndpointDefaults m :=
  { c.defaults with parsers := c.parsers, renderers := c.renderers }

def listedMethods (names : List String) : List String :=
  Text.sortedSet (names.map fun name =>
    if name = "meta" then "OPTIONS" else Text.asciiUpper name)

def listing [Monad m] (names : List String) : EndpointDecl m where
  method := "meta"
  payload := {
    responses := [{ returnType := .null, status := .noContent, headers := some [("Allow", {})] }] }
  handler := fun _ => pure <| do
    let response : Response := { status := .noContent }
    return .response
      (← response.withHeader "allow" (Text.utf8 (Text.join ", " (listedMethods names))))

def allEndpoints [Monad m] (c : ControllerDecl m) : List (EndpointDecl m) :=
  if c.listsMethods then
    c.endpoints ++ [listing (c.endpoints.map EndpointDecl.method ++ ["meta"])]
  else c.endpoints

def addEndpoint (c : ControllerDecl m) (specs : List ComponentSpec) (known : Named (Endpoint m))
    (decl : EndpointDecl m) : Except Failure (Named (Endpoint m)) := do
  let name := c.name ++ "." ++ decl.method
  let contract ← Contract.build name decl.payload c.allDefaults specs decl.method
  if known.has contract.method then
    .error (.misdeclared ("Controller " ++ c.name ++ " has more than one endpoint for method " ++
      Text.asciiUpper contract.method))
  else return known ++ [(contract.method, {
    name := name
    contract := contract
    handler := decl.handler
    model := RequestModel.ofSpecs c.name specs c.strictRequests
    serializer := c.serializer
    strictResponses := c.strictResponses
    sharedErrorHandler := c.errorHandler })]

def build [Monad m] (c : ControllerDecl m) : Except Failure (Controller m) := do
  let specs ← c.components
  let endpoints ← c.allEndpoints.foldlM (c.addEndpoint specs) []
  Contract.checkOperationIds c.name [] (endpoints.values.map Endpoint.contract)
  return { name := c.name, endpoints := endpoints }

end ControllerDecl

end Accord
