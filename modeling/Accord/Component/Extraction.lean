import Accord.Component.Basic
import Accord.Negotiation.Decisions

namespace Accord.Component

def joinedHeader? (headers : Headers) (name : String) : Option Json :=
  let values := (headers.getAll name).map Text.ofUtf8Lossy
  if values.isEmpty then none else some (.string (Text.join ", " values))

/-- The header that a field means: by its name in lower case, or with hyphens for underscores. -/
def headerFor? (headers : Headers) (wire : String) : Option (String × Json) :=
  let lowered := Text.asciiLower wire
  let hyphenated := String.ofList (lowered.toList.map fun c => if c = '_' then '-' else c)
  [lowered, hyphenated].findSome? fun name => (joinedHeader? headers name).map fun v => (name, v)

/-- The headers that fields of the model mean, under the names of the fields on the wire, and then all
others. -/
def headerMembers (headers : Headers) (model : Schema) : List (String × Json) :=
  let fields := ((model.model?).map Model.fields).getD []
  let found := fields.filterMap fun (name, field) =>
    (headerFor? headers (field.wireName name)).map fun (used, v) => (field.wireName name, used, v)
  let declared := Json.sortMembers (found.map fun (wire, _, v) => (wire, v))
  let consumed := found.map fun (_, used, _) => used
  let others := headers.names.filter fun name =>
    !consumed.contains name && (declared.lookup name).isNone
  others.foldl (fun members name =>
    match joinedHeader? headers name with
    | some v => Json.insertMember name v members
    | none => members) declared

def textMembers (pairs : List (String × String)) : Json :=
  Json.ofMembers (pairs.map fun (key, value) => (key, .string value))

def pathData (r : Request) (model : Schema) : Except Failure Json :=
  if r.pathArgs.isEmpty then .ok (textMembers r.pathParams)
  else .error (.unsupported ("Path with model " ++ model.typeName ++
    " does not allow unnamed path parameters " ++ Text.showList r.pathArgs))

/-- A body that cannot be read is told like one that no parser takes. -/
def unreadableBody : Failure → Failure
  | .unreadable message => .unsupported message
  | failure => failure

def bodyData (parsers : BodyParsers) (r : Request) (model : Schema) : Serving Json := do
  let parser ← Serving.parser parsers r
  ExceptT.adapt unreadableBody (Serving.withForm (parser.read r.body r model))

def fileData (parsers : BodyParsers) (r : Request) (model : Schema) : Serving Json := do
  let parser ← Serving.parser parsers r
  match parser.readFiles? with
  | some readFiles => Serving.withForm (readFiles r model)
  | none => throw (.unsupported ("Trying to parse files with '" ++ parser.contentType ++
      "' parser that does not support file parsing"))

def query : Component where
  className := "Query"
  contextName := "parsed_query"
  extract := fun _ r model => pure (.object (Query.toMembers model.forceListKeys
    (r.queryPairs.map fun (key, value) => (key, .string value))))

def body : Component where
  className := "Body"
  contextName := "parsed_body"
  extract := bodyData
  conditionalTypes := fun model => model.mapping?.getD []

def headers : Component where
  className := "Headers"
  contextName := "parsed_headers"
  extract := fun _ r model => pure (.object (headerMembers r.headers model))

def path : Component where
  className := "Path"
  contextName := "parsed_path"
  extract := fun _ r model => liftM (pathData r model)
  failures := [(.badRequest, "Raised when request components cannot be parsed"),
    (.notFound, "Raised when path parameters do not match")]

def cookies : Component where
  className := "Cookies"
  contextName := "parsed_cookies"
  extract := fun _ r _ => pure (textMembers r.cookies)

def fileMetadata : Component where
  className := "FileMetadata"
  contextName := "parsed_file_metadata"
  extract := fileData
  checkParsers := fun parsers =>
    if parsers.any fun (_, p) => p.readsFiles then .ok ()
    else .error (.misdeclared ("Component FileMetadata" ++
      " requires at least one parser that can parse files, found: " ++
      Text.showList parsers.names))

def all : List Component := [query, body, headers, path, cookies, fileMetadata]

end Accord.Component
