import Accord.Body.Serializer
import Accord.Contract.Basic
import Accord.Negotiation.Decisions

namespace Accord

structure RawAnswer where
  data : Json
  status : Status
  headers : Named String
  cookies : Option (Named NewCookie)
  renderer : Renderer

namespace RawAnswer

def toResponse (a : RawAnswer) : Except Failure Response := do
  let body ← if a.status.isBodyless && a.data.isNull then pure [] else a.renderer.render a.data
  let r ← a.headers.foldlM (fun (r : Response) (name, value) => r.withHeader name (Text.utf8 value))
    { status := a.status, body := body }
  return (a.cookies.getD []).foldl (fun r (name, cookie) => r.withCookie name cookie) r

end RawAnswer

structure ResponseCheck (m : Type → Type) where
  contract : Contract m
  serializer : Serializer
  strict : Bool := true

namespace ResponseCheck

variable {m : Type → Type}

def broken {α : Type} (message : String) : Except Failure α := .error (.brokenContract message [])

def specFor (c : ResponseCheck m) (status : Status) : Except Failure ResponseSpec :=
  match c.contract.responses.find? status with
  | some spec => .ok spec
  | none => broken ("Returned status code " ++ toString status.code ++
      " is not specified in the list of allowed status codes: [" ++
      Text.join ", " (c.contract.responses.map fun spec => toString spec.status.code) ++ "]")

/-- A response may be limited to some content types. -/
def checkLimit (spec : ResponseSpec) (contentType : String) : Except Failure Unit :=
  match spec.limitToContentTypes with
  | none => .ok ()
  | some allowed =>
    let essence := (MediaType.read contentType).essence
    if allowed.any fun limit => (MediaType.read limit).essence == essence then .ok ()
    else broken ("Response " ++ toString spec.status.code ++ " is not allowed for '" ++ contentType ++
      "', only for " ++ Text.showList allowed)

def modelFor (returnType : Schema) (contentType : String) : Except Failure Schema :=
  match returnType.mapping? with
  | none => .ok returnType
  | some mapping =>
    let essence := (MediaType.read contentType).essence
    match mapping.find? fun (key, _) => (MediaType.read key).essence == essence with
    | some (_, s) => .ok s
    | none => broken ("Content-Type '" ++ contentType ++
        "' is not listed in supported content types " ++ Text.showList (mapping.map Prod.fst))

def checkBody (c : ResponseCheck m) (spec : ResponseSpec) (contentType : String) (v : Json) :
    Except Failure Unit := do
  checkLimit spec contentType
  let model ← modelFor spec.returnType contentType
  match c.serializer.check v model (some c.strict) with
  | .ok _ => return ()
  | .error details => .error (.brokenBody (c.serializer.present details))

def describedNames {α : Type} (counts : α → Bool) (described : Option (Named α)) : List String :=
  ((described.getD []).filter fun (_, a) => counts a).map Prod.fst

/-- Every required header is there, and every header but the content type is described. -/
def checkHeaders (spec : ResponseSpec) (r : Response) : Except Failure Unit :=
  let present := Text.sortedSet (r.headers.names.map Text.lower)
  let names := fun counts => Text.sortedSet ((describedNames counts spec.headers).map Text.lower)
  let missing := (names fun h => h.required && !h.schemaOnly).filter (!present.contains ·)
  let known := names fun h => !h.schemaOnly
  let extra := present.filter fun name => name != "content-type" && !known.contains name
  if !missing.isEmpty then
    broken ("Response has missing required " ++ Text.showList missing ++ " headers")
  else if !extra.isEmpty then
    broken ("Response has extra undescribed " ++ Text.showList extra ++ " headers")
  else .ok ()

def knownCookies (spec : ResponseSpec) : Named CookieSpec :=
  (spec.cookies.getD []).filter fun (_, c) => !c.schemaOnly

def checkCookie (spec : ResponseSpec) (name : String) (cookie : NewCookie) : Except Failure Unit :=
  match (knownCookies spec).lookup name with
  | none => .ok ()
  | some expected =>
    if expected.admits cookie then .ok ()
    else broken ("Response cookie " ++ name ++ "=" ++ cookie.listing ++ " is not equal to " ++
      expected.listing)

def checkCookies (spec : ResponseSpec) (r : Response) : Except Failure Unit :=
  let present := r.cookies.names
  let missing := Text.sortedSet
    ((describedNames (fun c => c.required && !c.schemaOnly) spec.cookies).filter
      (!present.contains ·))
  let extra := Text.sortedSet (present.filter fun name => !(knownCookies spec).has name)
  if !missing.isEmpty then
    broken ("Response has missing required " ++ Text.showList missing ++ " cookie")
  else if !extra.isEmpty then
    broken ("Response has extra undescribed " ++ Text.showList extra ++ " cookies")
  else r.cookies.forM fun (name, cookie) => checkCookie spec name cookie

def checkContentType (c : ResponseCheck m) (r : Response) : Except Failure Unit :=
  let contentType := r.contentType?.getD ""
  if (MediaType.byPrecedence c.contract.renderers.names).any (·.fitsText contentType) then .ok ()
  else broken ("Response content type '" ++ contentType ++
    "' is not listed as a possible to be returned " ++ Text.showList c.contract.renderers.names)

/-- An empty response without a content type, where no body is allowed. -/
def isBare (r : Response) : Bool :=
  r.status.isBodyless && r.body.isEmpty && r.contentType?.isNone

def unreadable (failure : Failure) : Failure :=
  .brokenContract ("Response body cannot be parsed: " ++ failure.message) []

def checkResponse (c : ResponseCheck m) (request : Request) (r : Response) : Serving Unit := do
  let spec ← liftM (c.specFor r.status)
  let renderer? := (← get).renderer?
  match BodyParsers.forRereading? r.contentType? renderer? c.contract.parsers with
  | none => throw (.internal "No parser can read the response body back")
  | some parser =>
    let v ← ExceptT.adapt unreadable (Serving.withForm (parser.read r.body request spec.returnType))
    let contentType := match renderer? with
      | some renderer => renderer.contentType
      | none => parser.contentType
    liftM (c.checkBody spec contentType v)
    liftM (checkHeaders spec r)
    liftM (checkCookies spec r)
    if isBare r then return ()
    else liftM (c.checkContentType r)

def accept (c : ResponseCheck m) (request : Request) (r : Response) : Serving Response := do
  if c.contract.validateResponses then c.checkResponse request r
  return r

/-- Raw data with what makes a response of it, if the data keeps the contract or that is not
checked. -/
def acceptRaw (c : ResponseCheck m) (v : Json) : Serving RawAnswer := do
  match c.contract.modification with
  | none => throw (.internal ("Endpoint '" ++ c.contract.method ++
      "' returned raw data without associated modification"))
  | some modification =>
    match (← get).renderer? with
    | none => throw (.internal "Raw data cannot be validated before renderer negotiation")
    | some renderer =>
      if c.contract.validateResponses then
        let spec ← liftM (c.specFor modification.status)
        liftM (c.checkBody spec renderer.contentType v)
      return {
        data := v
        status := modification.status
        headers := modification.headersFor renderer.contentType
        cookies := modification.addedCookies
        renderer := renderer }

end ResponseCheck

end Accord
