import Accord.Body.Form
import Accord.Json.Reader
import Accord.Schema.Basic

namespace Accord

structure BodyParser where
  contentType : String
  read : Bytes → Request → Schema → FormState Json
  /-- What is told of the files of a form, if the parser reads files. -/
  readFiles? : Option (Request → Schema → FormState Json) := none
  readsForms : Bool := false

abbrev BodyParsers := Named BodyParser

namespace BodyParser

def readsFiles (p : BodyParser) : Bool := p.readFiles?.isSome

def json : BodyParser where
  contentType := "application/json"
  read := fun body _ _ =>
    match Json.read body with
    | .ok v => pure v
    | .error e => if body.isEmpty then pure .null else throw (.unreadable e.message)

/-- Pairs of names and values; a method that carries no form has none. -/
def form (alsoPosted : List String) : BodyParser where
  contentType := "application/x-www-form-urlencoded"
  read := fun body r s =>
    pure <| .object <|
      if FormRules.carriesForm alsoPosted r.method then
        Query.toMembers s.forceListKeys
          ((Query.readPairs body).map fun (key, value) => (key, .string value))
      else []
  readsForms := true

def multipart (rules : FormRules) : BodyParser where
  contentType := "multipart/form-data"
  read := fun _ r s => do
    let form ← rules.form r
    return .object (Query.toMembers s.forceListKeys
      (form.fields.map fun (name, value) => (name, .string value)))
  readFiles? := some fun r s => do
    let form ← rules.form r
    return .object (Query.toMembers s.forceListKeys
      (form.files.map fun (name, file) => (name, file.describe name)))
  readsForms := true

end BodyParser

end Accord
