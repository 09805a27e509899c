import Accord.Json.Record
import Accord.Text.Quoted

namespace Accord

inductive SameSite where
  | lax
  | strict
  | anySite
  deriving DecidableEq, Repr, Inhabited

namespace SameSite

def text : SameSite → String
  | lax => "Lax"
  | strict => "Strict"
  | anySite => "None"

def toJson : SameSite → Json
  | lax => .string "lax"
  | strict => .string "strict"
  | anySite => .string "none"

def ofJson? : Json → Option SameSite
  | .string "lax" => some lax
  | .string "strict" => some strict
  | .string "none" => some anySite
  | .object [(name, .null)] =>
    if name = "lax" then some lax
    else if name = "strict" then some strict
    else if name = "none" then some anySite
    else none
  | _ => none

end SameSite

structure CookieAttrs where
  path : String := "/"
  maxAge : Option Int := none
  expires : Option Int := none
  domain : Option String := none
  secure : Option Bool := none
  httpOnly : Option Bool := none
  sameSite : SameSite := .lax
  deriving DecidableEq, Repr, Inhabited

namespace CookieAttrs

/-- Agreement: a missing domain is an empty one, a missing switch is off, and the expiry does not
count. -/
def agree (a b : CookieAttrs) : Bool :=
  a.path == b.path && a.maxAge == b.maxAge && a.domain.getD "" == b.domain.getD "" &&
    a.secure.getD false == b.secure.getD false && a.httpOnly.getD false == b.httpOnly.getD false &&
    a.sameSite == b.sameSite

def members (a : CookieAttrs) : List (String × Json) :=
  let given := fun (key : String) (v : Option Json) => (v.map fun v => (key, v)).toList
  [("path", .string a.path)] ++ given "max_age" (a.maxAge.map Json.int) ++
    given "expires" (a.expires.map Json.int) ++ given "domain" (a.domain.map Json.string) ++
    given "secure" (a.secure.map Json.bool) ++ given "httponly" (a.httpOnly.map Json.bool) ++
    [("samesite", a.sameSite.toJson)]

def names : List String :=
  ["path", "max_age", "expires", "domain", "secure", "httponly", "samesite"]

def ofFields? (fields : List (String × Json)) : Option CookieAttrs := do
  return {
    path := ← Json.orDefault? "/" Json.string? (fields.lookup "path")
    maxAge := ← Json.optional? Json.int64? (fields.lookup "max_age")
    expires := ← Json.optional? Json.int64? (fields.lookup "expires")
    domain := ← Json.optional? Json.string? (fields.lookup "domain")
    secure := ← Json.optional? Json.bool? (fields.lookup "secure")
    httpOnly := ← Json.optional? Json.bool? (fields.lookup "httponly")
    sameSite := ← Json.orDefault? .lax SameSite.ofJson? (fields.lookup "samesite") }

def quotedOption {α : Type} (f : α → String) : Option α → String
  | none => "None"
  | some a => "Some(" ++ f a ++ ")"

def boolText (b : Bool) : String := if b then "true" else "false"

/-- All attributes, as they are shown when a cookie is not the declared one. -/
def listing (a : CookieAttrs) : String :=
  "CookieAttrs \x7b path: " ++ Text.quoted a.path ++
    ", max_age: " ++ quotedOption toString a.maxAge ++
    ", expires: " ++ quotedOption toString a.expires ++
    ", domain: " ++ quotedOption Text.quoted a.domain ++
    ", secure: " ++ quotedOption boolText a.secure ++
    ", httponly: " ++ quotedOption boolText a.httpOnly ++
    ", samesite: " ++ a.sameSite.text ++ " \x7d"

end CookieAttrs

structure CookieSpec where
  attrs : CookieAttrs := {}
  description : Option String := none
  required : Bool := true
  schemaOnly : Bool := false
  deriving DecidableEq, Repr, Inhabited

structure NewCookie where
  value : String
  attrs : CookieAttrs := {}
  deriving DecidableEq, Repr, Inhabited

namespace CookieSpec

def toJson (c : CookieSpec) : Json :=
  Json.ofMembers (c.attrs.members ++
    (c.description.map fun d => ("description", Json.string d)).toList ++
    [("required", .bool c.required), ("schema_only", .bool c.schemaOnly)])

/-- Only an object is a cookie. -/
def ofJson? (v : Json) : Option CookieSpec := do
  guard v.members?.isSome
  let fields ← v.record? (["description", "required", "schema_only"] ++ CookieAttrs.names)
  return {
    attrs := ← CookieAttrs.ofFields? fields
    description := ← Json.optional? Json.string? (fields.lookup "description")
    required := ← Json.orDefault? true Json.bool? (fields.lookup "required")
    schemaOnly := ← Json.orDefault? false Json.bool? (fields.lookup "schema_only") }

def admits (spec : CookieSpec) (cookie : NewCookie) : Bool := spec.attrs.agree cookie.attrs

def listing (c : CookieSpec) : String :=
  "CookieSpec \x7b attrs: " ++ c.attrs.listing ++
    ", description: " ++ CookieAttrs.quotedOption Text.quoted c.description ++
    ", required: " ++ CookieAttrs.boolText c.required ++
    ", schema_only: " ++ CookieAttrs.boolText c.schemaOnly ++ " \x7d"

end CookieSpec

namespace NewCookie

def toJson (c : NewCookie) : Json := Json.ofMembers (("value", .string c.value) :: c.attrs.members)

def ofJson? (v : Json) : Option NewCookie := do
  guard v.members?.isSome
  let fields ← v.record? ("value" :: CookieAttrs.names)
  return { value := ← (← fields.lookup "value").string?, attrs := ← CookieAttrs.ofFields? fields }

def toSpec (c : NewCookie) : CookieSpec := { attrs := c.attrs }

def headerText (dateAfter : Int → String) (name : String) (c : NewCookie) : String :=
  let given := fun (label : String) (v : Option String) => match v with
    | some v => "; " ++ label ++ "=" ++ v
    | none => ""
  name ++ "=" ++ c.value ++ "; Path=" ++ c.attrs.path ++
    given "Max-Age" (c.attrs.maxAge.map toString) ++
    given "Expires" (c.attrs.expires.map dateAfter) ++
    given "Domain" c.attrs.domain ++
    (if c.attrs.secure = some true then "; Secure" else "") ++
    (if c.attrs.httpOnly = some true then "; HttpOnly" else "") ++
    "; SameSite=" ++ c.attrs.sameSite.text

def listing (c : NewCookie) : String :=
  "NewCookie \x7b value: " ++ Text.quoted c.value ++ ", attrs: " ++ c.attrs.listing ++ " \x7d"

end NewCookie

end Accord
