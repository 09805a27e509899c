import Accord.Component.Basic
import Accord.Contract.Auth
import Accord.Contract.ErrorModel
import Accord.Contract.ResponseSpec
import Accord.Negotiation.Choice

namespace Accord

inductive BodyRule where
  | emptyResponseBody
  | emptyRequestBody
  deriving DecidableEq, Repr, Inhabited

namespace BodyRule

def all : List BodyRule := [emptyResponseBody, emptyRequestBody]

def text : BodyRule → String
  | emptyResponseBody => "empty_response_body"
  | emptyRequestBody => "empty_request_body"

def union (a b : List BodyRule) : List BodyRule :=
  all.filter fun rule => a.contains rule || b.contains rule

end BodyRule

/-- Answers a failure with a response, or passes a failure on. -/
abbrev ErrorHandler (m : Type → Type) := Request → Failure → m (Except Failure Response)

abbrev ResponseSpecs := List ResponseSpec

namespace ResponseSpecs

def find? (status : Status) (specs : ResponseSpecs) : Option ResponseSpec :=
  List.find? (fun spec => spec.status == status) specs

def has (status : Status) (specs : ResponseSpecs) : Bool :=
  specs.any fun spec => spec.status == status

def put (spec : ResponseSpec) : ResponseSpecs → ResponseSpecs
  | [] => [spec]
  | known :: rest =>
    if known.status = spec.status then spec :: rest else known :: put spec rest

def ofList (specs : List ResponseSpec) : ResponseSpecs :=
  specs.foldl (fun known spec => put spec known) []

def missing (specs : ResponseSpecs) : List ResponseSpec → List ResponseSpec
  | [] => []
  | spec :: rest =>
    if specs.has spec.status then missing specs rest
    else spec :: missing (specs ++ [spec]) rest

end ResponseSpecs

structure Contract (m : Type → Type) where
  method : String
  responses : ResponseSpecs := []
  validateResponses : Bool := true
  modification : Option Modification := none
  errorHandler : Option (ErrorHandler m) := none
  components : List ComponentSpec := []
  parsers : BodyParsers := []
  renderers : Renderers := []
  auth : Option (List (AuthProvider m)) := none
  skippedRules : List BodyRule := []
  allowedMethods : List String := []
  summary : Option String := none
  description : Option String := none
  tags : Option (List String) := none
  operationId : Option String := none
  deprecated : Bool := false

namespace Contract

variable {m : Type → Type}

def hasComponent (name : String) (c : Contract m) : Bool :=
  c.components.any fun spec => spec.contextName == name

def failureSpec (status : Status) (description : String) : ResponseSpec :=
  { returnType := errorModel, status := status, description := some description }

def componentSpecs (c : Component) : List ResponseSpec :=
  c.failures.map fun (status, description) => failureSpec status description

def rendererSpecs (c : Contract m) : List ResponseSpec :=
  (if c.validateResponses then
    [failureSpec .unprocessable
      "Raised when returned response does not match the response schema"] else []) ++
  [failureSpec .notAcceptable "Raised when provided `Accept` header cannot be satisfied"]

def authSpecs : List ResponseSpec :=
  [failureSpec .unauthorized "Raised when auth was not successful"]

def impliedSpecs (c : Contract m) : List ResponseSpec :=
  c.components.flatMap (fun spec => componentSpecs spec.component) ++
    c.renderers.flatMap (fun _ => c.rendererSpecs) ++
    (c.auth.getD []).flatMap fun _ => authSpecs

/-- Declares what comes with the parts, for statuses that are not declared. -/
def withImpliedSpecs (c : Contract m) : Contract m :=
  { c with responses := c.responses ++ c.responses.missing c.impliedSpecs }

end Contract

end Accord
