import Accord.Component.Extraction
import Accord.Contract.Payload
import Accord.Text.Case

namespace Accord.Contract

variable {m : Type → Type}

def usualMethods : List String :=
  ["get", "head", "post", "put", "delete", "connect", "options", "trace", "patch"]

def methodsWithoutBody : List String := ["get", "head", "delete", "connect", "trace"]

def methodOfName (name : String) (allowCustom : Bool) : Except Failure String :=
  if !name.isEmpty && name == Text.lower name && name == "meta" then .ok "options"
  else if !name.isEmpty && name == Text.lower name && (allowCustom || usualMethods.contains name) then
    .ok name
  else .error (.misdeclared (name ++ " is not a valid HTTP method name"))

def inferredStatus (method : String) : Status :=
  if Text.asciiLower method = "post" then .created else .ok

def checkNewHeaders (endpoint : String) (raw : RawResponse) : Except Failure Unit :=
  let isExisting := fun (entry : String × HeaderEntry) => match entry.2 with
    | .described spec => !spec.schemaOnly
    | .added _ => false
  if (raw.headers.getD []).any isExisting then
    .error (.misdeclared ("Since '" ++ endpoint ++ "' returns raw data, it is not possible to use " ++
      "`HeaderSpec` because there are no existing headers to describe. Use `NewHeader` " ++
      "to add new headers to the response. Or mark the `HeaderSpec` as schema_only"))
  else .ok ()

def checkNewCookies (endpoint : String) (raw : RawResponse) : Except Failure Unit :=
  let isExisting := fun (entry : String × CookieEntry) => match entry.2 with
    | .described spec => !spec.schemaOnly
    | .added _ => false
  if (raw.cookies.getD []).any isExisting then
    .error (.misdeclared ("Since '" ++ endpoint ++ "' returns raw data, it is not possible to use " ++
      "`CookieSpec` because there are no existing cookies to describe. Use `NewCookie` " ++
      "to add new cookies to the response. Or mark the `CookieSpec` as schema_only"))
  else .ok ()

def modificationOf (endpoint method : String) (payload : Payload m) (defaults : EndpointDefaults m) :
    Except Failure (Option Modification) :=
  match payload.raw? with
  | none =>
    if defaults.responses.isEmpty && payload.responses.isEmpty then
      .error (.misdeclared ("'" ++ endpoint ++ "' returns native responses and has no configured " ++
        "responses, it requires at least one ResponseSpec"))
    else .ok none
  | some raw => do
    checkNewHeaders endpoint raw
    checkNewCookies endpoint raw
    return some {
      returnType := raw.returnType
      status := raw.status.getD (inferredStatus method)
      headers := raw.headers
      cookies := raw.cookies }

/-- Its own entries, if there are some, else the shared ones; there must be one. -/
def ownOrShared {α : Type} (endpoint kind : String) (own : Option (Named α)) (shared : Named α) :
    Except Failure (Named α) :=
  let chosen := (own.filter fun entries => !entries.isEmpty).getD shared
  if chosen.isEmpty then
    .error (.misdeclared ("'" ++ endpoint ++ "' must have at least one " ++ kind ++ " configured"))
  else .ok chosen

def declaredSpecs (c : Contract m) (payload : Payload m) (defaults : EndpointDefaults m) :
    List ResponseSpec :=
  defaults.responses ++ payload.responses ++ (c.modification.map Modification.toSpec).toList

def allSpecs (c : Contract m) (payload : Payload m) (defaults : EndpointDefaults m) :
    List ResponseSpec :=
  let declared := c.declaredSpecs payload defaults
  declared ++ (ResponseSpecs.ofList declared).missing c.impliedSpecs

/-- Two declarations of one status must be equal; `known` are the first ones of each status. -/
def checkUnique (endpoint : String) (known : ResponseSpecs) : List ResponseSpec → Except Failure Unit
  | [] => .ok ()
  | spec :: rest =>
    match known.find? spec.status with
    | some first =>
      if first.same spec then checkUnique endpoint known rest
      else .error (.misdeclared ("Endpoint '" ++ endpoint ++ "' has multiple responses for " ++
        "status_code=" ++ toString spec.status.code ++ ", but with different metadata"))
    | none => checkUnique endpoint (known ++ [spec]) rest

def checkHeaderNames (endpoint : String) (spec : ResponseSpec) : Except Failure Unit :=
  if (spec.headers.getD []).any fun (name, _) => Text.asciiLower name == "set-cookie" then
    .error (.misdeclared ("Cannot use \"Set-Cookie\" header in response " ++
      toString spec.status.code ++ ", use `cookies` instead in '" ++ endpoint ++ "'"))
  else .ok ()

/-- A response that has no body has no type. -/
def checkBodyless (endpoint : String) (spec : ResponseSpec) : Except Failure Unit :=
  if spec.status.isBodyless && !spec.returnType.isNull then
    .error (.misdeclared ("Can only return `None` not " ++ spec.returnType.typeName ++
      " from an endpoint '" ++ endpoint ++ "' with status code " ++ toString spec.status.code))
  else .ok ()

def checkSpecs (c : Contract m) (endpoint : String) (specs : List ResponseSpec) :
    Except Failure ResponseSpecs := do
  checkUnique endpoint [] specs
  specs.forM fun spec => spec.returnType.checkDefinition
  specs.forM (checkHeaderNames endpoint)
  if !c.skippedRules.contains .emptyResponseBody then specs.forM (checkBodyless endpoint)
  return ResponseSpecs.ofList specs

def checkRequestBody (c : Contract m) (endpoint : String) : Except Failure Unit :=
  if !c.skippedRules.contains .emptyRequestBody && methodsWithoutBody.contains c.method &&
      c.hasComponent Component.body.contextName then
    .error (.misdeclared ("HTTP method '" ++ Text.asciiUpper c.method ++
      "' cannot have a request body, but endpoint '" ++ endpoint ++
      "' uses Body component. Either remove Body component or use a different " ++
      "HTTP method like POST, PUT, or PATCH."))
  else .ok ()

def checkComponent (c : Contract m) (spec : ComponentSpec) : Except Failure Unit := do
  spec.component.checkParsers c.parsers
  spec.typeArgs.forM Schema.checkDefinition

def build (endpoint : String) (payload : Payload m) (defaults : EndpointDefaults m)
    (components : List ComponentSpec) (methodName : String) : Except Failure (Contract m) := do
  let options := payload.options
  let method ← methodOfName methodName
    (options.allowCustomMethods || defaults.allowedMethods.contains methodName)
  let modification ← modificationOf endpoint method payload defaults
  let parsers ← ownOrShared endpoint "parser" options.parsers defaults.parsers
  let renderers ← ownOrShared endpoint "renderer" options.renderers defaults.renderers
  let c : Contract m := {
    method := method
    validateResponses := options.validateResponses.getD defaults.validateResponses
    modification := modification
    errorHandler := options.errorHandler
    components := components
    parsers := parsers
    renderers := renderers
    auth := options.auth.combine defaults.auth
    skippedRules := BodyRule.union options.skippedRules defaults.skippedRules
    allowedMethods := defaults.allowedMethods
    summary := options.summary
    description := options.description
    tags := options.tags
    operationId := options.operationId
    deprecated := options.deprecated }
  let c := { c with responses := ← c.checkSpecs endpoint (c.allSpecs payload defaults) }
  c.checkRequestBody endpoint
  c.components.forM c.checkComponent
  return c

/-- No two endpoints share an operation id; `seen` are those of the endpoints before. -/
def checkOperationIds (controller : String) (seen : List String) :
    List (Contract m) → Except Failure Unit
  | [] => .ok ()
  | c :: rest =>
    match c.operationId with
    | none => checkOperationIds controller seen rest
    | some id =>
      if seen.contains id then
        .error (.misdeclared ("Controller " ++ controller ++ " has duplicate operation_id " ++
          Text.showList [id]))
      else checkOperationIds controller (id :: seen) rest

end Accord.Contract
