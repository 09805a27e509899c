import Accord.Failure
import Accord.Media
import Accord.Message.Headers
import Accord.Message.Query
import Accord.Message.Uri

namespace Accord

structure Request where
  method : String
  uri : Uri
  headers : Headers
  body : Bytes
  pathParams : Named String := []
  pathArgs : List String := []
  deriving Inhabited

namespace Request

def ofParts (method uri : String) (headers : List (String × String)) (body : Bytes) :
    Except Failure Request := do
  if !Message.isToken method then .error (.internal "Invalid method")
  else match Uri.read uri with
  | .error _ => .error (.internal "Invalid URI")
  | .ok uri =>
    let add := fun (h : Headers) ((name, value) : String × String) =>
      match Message.headerName? name with
      | none => .error (.internal "Invalid header name")
      | some name =>
        let value := Text.utf8 value
        if Message.isHeaderValue value then .ok (h.append name value)
        else .error (.internal "Invalid header value")
    let headers ← headers.foldlM add Headers.empty
    .ok { method := method, uri := uri, headers := headers, body := body }

def path (r : Request) : String := r.uri.path

def header? (name : String) (r : Request) : Option String := r.headers.text? name

def contentType? (r : Request) : Option String :=
  ((r.header? "content-type").filter fun raw => !(Text.trim raw).isEmpty).map fun raw =>
    (MediaType.read raw).essence

def accept? (r : Request) : Option String := r.header? "accept"

def acceptedTypes (r : Request) : List MediaType :=
  MediaType.readAccept
    (Text.join "," ((r.headers.getAll "accept").filterMap Message.visibleText?))

def queryPairs (r : Request) : List (String × String) :=
  match r.uri.query with
  | some query => Query.readPairs (Text.utf8 query)
  | none => []

def readCookie (part : List Char) : Option (String × String) := do
  let (name, value) ← Text.cutChars '=' part
  let name := Text.trimChars name
  guard (!name.isEmpty)
  let value := Text.trimChars value
  return (String.ofList name, String.ofList ((Text.between? '"' value).getD value))

def cookies (r : Request) : Named String :=
  let texts := (r.headers.getAll "cookie").filterMap Message.visibleText?
  Named.ofList (texts.flatMap fun text => (Text.splitChars ';' text.toList).filterMap readCookie)

end Request

end Accord
