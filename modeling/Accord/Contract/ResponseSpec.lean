import Accord.Message.Response
import Accord.Schema.Basic

namespace Accord

structure HeaderSpec where
  description : Option String := none
  deprecated : Bool := false
  example? : Option String := none
  required : Bool := true
  schemaOnly : Bool := false
  deriving DecidableEq, Repr, Inhabited

structure NewHeader where
  value : String
  description : Option String := none
  deprecated : Bool := false
  example? : Option String := none
  deriving DecidableEq, Repr, Inhabited

namespace HeaderSpec

def toJson (h : HeaderSpec) : Json :=
  let given := fun (key : String) (v : Option String) => (v.map fun v => (key, Json.string v)).toList
  Json.ofMembers (given "description" h.description ++ [("deprecated", .bool h.deprecated)] ++
    given "example" h.example? ++
    [("required", .bool h.required), ("schema_only", .bool h.schemaOnly)])

def ofJson? (v : Json) : Option HeaderSpec := do
  let fields ← v.record? ["description", "deprecated", "example", "required", "schema_only"]
  return {
    description := ← Json.optional? Json.string? (fields.lookup "description")
    deprecated := ← Json.orDefault? false Json.bool? (fields.lookup "deprecated")
    example? := ← Json.optional? Json.string? (fields.lookup "example")
    required := ← Json.orDefault? true Json.bool? (fields.lookup "required")
    schemaOnly := ← Json.orDefault? false Json.bool? (fields.lookup "schema_only") }

end HeaderSpec

namespace NewHeader

def toJson (h : NewHeader) : Json :=
  let given := fun (key : String) (v : Option String) => (v.map fun v => (key, Json.string v)).toList
  Json.ofMembers ([("value", .string h.value)] ++ given "description" h.description ++
    [("deprecated", .bool h.deprecated)] ++ given "example" h.example?)

def ofJson? (v : Json) : Option NewHeader := do
  let fields ← v.record? ["value", "description", "deprecated", "example"]
  return {
    value := ← (← fields.lookup "value").string?
    description := ← Json.optional? Json.string? (fields.lookup "description")
    deprecated := ← Json.orDefault? false Json.bool? (fields.lookup "deprecated")
    example? := ← Json.optional? Json.string? (fields.lookup "example") }

def toSpec (h : NewHeader) : HeaderSpec :=
  { description := h.description, deprecated := h.deprecated, example? := h.example? }

end NewHeader

/-- A header that is added, or one that is there and is described. -/
inductive HeaderEntry where
  | added (header : NewHeader)
  | described (spec : HeaderSpec)
  deriving DecidableEq, Repr, Inhabited

namespace HeaderEntry

def added? : HeaderEntry → Option NewHeader
  | added header => some header
  | described _ => none

def toSpec : HeaderEntry → HeaderSpec
  | added header => header.toSpec
  | described spec => spec

end HeaderEntry

inductive CookieEntry where
  | added (cookie : NewCookie)
  | described (spec : CookieSpec)
  deriving DecidableEq, Repr, Inhabited

namespace CookieEntry

def added? : CookieEntry → Option NewCookie
  | added cookie => some cookie
  | described _ => none

def toSpec : CookieEntry → CookieSpec
  | added cookie => cookie.toSpec
  | described spec => spec

end CookieEntry

structure ResponseSpec where
  returnType : Schema
  status : Status
  headers : Option (Named HeaderSpec) := none
  cookies : Option (Named CookieSpec) := none
  description : Option String := none
  limitToContentTypes : Option (List String) := none
  deriving Inhabited

namespace ResponseSpec

def sameNamed {α : Type} [BEq α] : Option (Named α) → Option (Named α) → Bool
  | none, none => true
  | some xs, some ys =>
    xs.length == ys.length && xs.all fun (name, x) => match ys.lookup name with
      | some y => x == y
      | none => false
  | _, _ => false

def same (a b : ResponseSpec) : Bool :=
  a.returnType.same b.returnType && a.status == b.status && sameNamed a.headers b.headers &&
    sameNamed a.cookies b.cookies && a.description == b.description &&
    a.limitToContentTypes == b.limitToContentTypes

end ResponseSpec

structure Modification where
  returnType : Schema
  status : Status
  headers : Option (Named HeaderEntry) := none
  cookies : Option (Named CookieEntry) := none
  deriving Inhabited

namespace Modification

def toSpec (m : Modification) : ResponseSpec :=
  { returnType := m.returnType
    status := m.status
    headers := m.headers.map fun hs => hs.map fun (name, h) => (name, h.toSpec)
    cookies := m.cookies.map fun cs => cs.map fun (name, c) => (name, c.toSpec) }

def addedHeaders (m : Modification) : Option (Named NewHeader) :=
  m.headers.map fun hs => hs.filterMap fun (name, h) => h.added?.map fun h => (name, h)

def addedCookies (m : Modification) : Option (Named NewCookie) :=
  m.cookies.map fun cs => cs.filterMap fun (name, c) => c.added?.map fun c => (name, c)

def headersFor (contentType : String) (m : Modification) : Named String :=
  Named.put "Content-Type" contentType
    ((m.addedHeaders.getD []).map fun (name, h) => (name, h.value))

end Modification

end Accord
