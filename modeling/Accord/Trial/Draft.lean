import Accord.Json.Printer
import Accord.Message.Request
import Accord.Slot
import Accord.Trial.Upload

namespace Accord.Trial

inductive Fault where
  | request (message : String)
  | body (message : String)
  | json (message : String)
  | header (message : String)
  deriving DecidableEq, Repr, Inhabited

def Fault.message : Fault → String
  | request message => "Request build error: " ++ message
  | body message => "Body read error: " ++ message
  | json message => "JSON error: " ++ message
  | header message => "Invalid header: " ++ message

structure Draft where
  method : String
  uri : String
  query : List (String × String) := []
  headers : Headers := .empty
  cookies : List (String × String) := []
  body : Bytes := []
  pathParams : Named String := []
  fault? : Slot Fault := none
  deriving Inhabited

namespace Draft

def failing (fault : Fault) (d : Draft) : Draft :=
  { d with fault? := (Slot.hold fault d.fault?).2 }

def ofMethod (method uri : String) : Draft :=
  if Message.isToken method then { method := Text.asciiUpper method, uri := uri }
  else Draft.failing (.request ("Invalid method " ++ method ++ ": invalid HTTP method"))
    { method := "GET", uri := uri }

def headerValue (value : String) : Except Fault Bytes :=
  let bytes := Text.utf8 value
  if Message.isHeaderValue bytes then .ok bytes else .error (.header "failed to parse header value")

def withHeader (name value : String) (d : Draft) : Draft :=
  match Message.headerName? name with
  | none => d.failing (.header "invalid HTTP header name")
  | some name =>
    match headerValue value with
    | .ok bytes => { d with headers := d.headers.set name bytes }
    | .error fault => d.failing fault

def withContentType (value : String) (d : Draft) : Draft := d.withHeader "content-type" value

def withAccept (value : String) (d : Draft) : Draft := d.withHeader "accept" value

def withBearer (token : String) (d : Draft) : Draft :=
  d.withHeader "authorization" ("Bearer " ++ token)

def withQuery (name value : String) (d : Draft) : Draft :=
  { d with query := d.query ++ [(name, value)] }

def withCookie (name value : String) (d : Draft) : Draft :=
  { d with cookies := d.cookies ++ [(name, value)] }

def withPathParam (name value : String) (d : Draft) : Draft :=
  { d with pathParams := Named.put name value d.pathParams }

def withBody (body : Bytes) (d : Draft) : Draft := { d with body := body }

def withJson (v : Json) (d : Draft) : Draft :=
  (d.withBody (Text.utf8 v.render)).withContentType "application/json"

/-- A value in a form: texts as they are, anything else as JSON. -/
def formText : Json → String
  | .string s => s
  | v => v.render

def formMember (name : String) : Json → List (String × String)
  | .null => []
  | .array items => items.map fun v => (name, formText v)
  | v => [(name, formText v)]

def formPairs (v : Json) : Option (List (String × String)) :=
  v.members?.map fun members => members.flatMap fun (name, v) => formMember name v

def withForm (v : Json) (d : Draft) : Draft :=
  let d := match formPairs v with
    | some pairs => d.withBody (Text.utf8 (Query.writePairs pairs))
    | none => d.failing (.request "Expected object for form encoding")
  d.withContentType "application/x-www-form-urlencoded"

def withUpload (parts : List UploadPart) (d : Draft) : Draft :=
  (d.withBody (uploadBody parts)).withContentType ("multipart/form-data; boundary=" ++ boundary)

def fullUri (d : Draft) : String :=
  if d.query.isEmpty then d.uri
  else d.uri ++ (if Text.contains '?' d.uri then "&" else "?") ++ Query.writePairs d.query

def fullHeaders (d : Draft) : Except Fault Headers := do
  if d.cookies.isEmpty then return d.headers
  else
    let text := Text.join "; " (d.cookies.map fun (name, value) => name ++ "=" ++ value)
    return d.headers.set "cookie" (← headerValue text)

def build (d : Draft) : Except Fault Request :=
  match d.fault? with
  | some fault => .error fault
  | none => do
    let uri ← (Uri.read d.fullUri).mapError fun e => .request ("Invalid URI: " ++ e.message)
    return {
      method := d.method
      uri := uri
      headers := ← d.fullHeaders
      body := d.body
      pathParams := d.pathParams }

end Draft

end Accord.Trial
