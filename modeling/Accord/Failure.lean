import Accord.Json.Record
import Accord.Status

namespace Accord

inductive Step where
  | key (name : String)
  | index (n : Nat)
  deriving DecidableEq, Repr, Inhabited

def Step.toJson : Step → Json
  | key name => .string name
  | index n => .int n

def Step.ofJson? : Json → Option Step
  | .string name => some (.key name)
  | .int n => if 0 ≤ n ∧ n < unsignedLimit then some (.index n.toNat) else none
  | _ => none

def Step.text : Step → String
  | key name => name
  | index n => toString n

structure Detail where
  message : String
  path : Option (List Step)
  kind : String
  deriving DecidableEq, Repr, Inhabited

namespace Detail

def toJson (d : Detail) : Json :=
  let path := match d.path with
    | some steps => [("loc", Json.array (steps.map Step.toJson))]
    | none => []
  .object (path ++ [("msg", .string d.message), ("type", .string d.kind)])

def ofJson? (v : Json) : Option Detail := do
  let fields ← v.record? ["msg", "loc", "type"]
  return {
    message := ← (← fields.lookup "msg").string?
    path := ← Json.optional? (fun v => v.items?.bind (·.mapM Step.ofJson?)) (fields.lookup "loc")
    kind := ← (← fields.lookup "type").string? }

def under (steps : List Step) (d : Detail) : Detail :=
  { d with path := some (steps ++ d.path.getD []) }

end Detail

inductive Category where
  | definition
  | client
  | server
  deriving DecidableEq, Repr

def Category.text : Category → String
  | definition => "definition"
  | client => "client"
  | server => "server"

inductive Failure where
  | unsolvable (message : String)
  | misdeclared (message : String)
  | unreadable (message : String)
  | unsupported (message : String)
  /-- A response that breaks its contract. -/
  | brokenContract (message : String) (details : List Detail)
  | notAcceptable (message : String)
  | notAuthenticated (message : String)
  | invalid (details : List Detail) (status : Status)
  | raised (payload : Json) (status : Status)
  | internal (message : String)
  deriving Inhabited

namespace Failure

def brokenBody (details : List Detail) : Failure :=
  .brokenContract
    ("Response body failed validation with " ++ toString details.length ++ " error(s)") details

def message : Failure → String
  | unsolvable m | misdeclared m | unreadable m | unsupported m | notAcceptable m
  | notAuthenticated m | internal m => m
  | brokenContract m _ => m
  | invalid details _ => "Validation failed with " ++ toString details.length ++ " error(s)"
  | raised _ status => "API error with status " ++ status.describe

def category : Failure → Category
  | unsolvable _ | misdeclared _ => .definition
  | unreadable _ | unsupported _ | notAcceptable _ | notAuthenticated _ | invalid .. | raised .. =>
    .client
  | brokenContract .. | internal _ => .server

def status : Failure → Status
  | unreadable _ | unsupported _ => .badRequest
  | brokenContract .. => .unprocessable
  | notAcceptable _ => .notAcceptable
  | notAuthenticated _ => .unauthorized
  | invalid _ status | raised _ status => status
  | unsolvable _ | misdeclared _ | internal _ => .internalError

def kind : Failure → String
  | notAuthenticated _ => "security"
  | _ => "value_error"

/-- What is wrong in detail; of internal failures nothing is told. -/
def details (f : Failure) : List Detail :=
  match f with
  | invalid details _ => details
  | brokenContract m details => if details.isEmpty then [⟨m, none, f.kind⟩] else details
  | internal _ => [⟨"Internal server error", none, f.kind⟩]
  | _ => [⟨f.message, none, f.kind⟩]

def listing (details : List Detail) : Json :=
  .object [("detail", .array (details.map Detail.toJson))]

def envelope : Failure → Json
  | raised payload _ => payload
  | f => listing f.details

end Failure

end Accord
