import Accord.Body.Serializer
import Accord.Component.Extraction
import Accord.Schema.Build

namespace Accord

structure ParsedComponents where
  values : List (String × Json)
  deriving Inhabited

namespace ParsedComponents

def empty : ParsedComponents := ⟨[]⟩

def isEmpty (p : ParsedComponents) : Bool := p.values.isEmpty

def typed {α : Type} (convert : Json → Option α) (name : String) (p : ParsedComponents) :
    Except Failure α :=
  match p.values.lookup name with
  | none => .error (.internal ("Component " ++ name ++ " is not declared"))
  | some v =>
    match convert v with
    | some a => .ok a
    | none => .error (.internal ("Cannot convert " ++ name))

def data (c : Component) (p : ParsedComponents) : Except Failure Json := p.typed some c.contextName

end ParsedComponents

structure RequestModel where
  specs : List ComponentSpec
  default : Schema
  variants : Named Schema
  strict : Option Bool := none

namespace RequestModel

def combined (name : String) (fields : Named Schema) : Schema :=
  .object (Model.ofSchemas name fields)

def fieldsOf (specs : List ComponentSpec) : Named Schema :=
  Named.ofList (specs.map fun spec => (spec.contextName, spec.model))

/-- By essence of content type, the models that replace those of components. -/
def overridesOf (specs : List ComponentSpec) : Named (Named Schema) :=
  let entries := specs.flatMap fun spec => spec.conditionalTypes.map fun (key, s) =>
    ((MediaType.read key).essence, spec.contextName, s)
  entries.foldl (fun overrides (essence, name, s) =>
    Named.put essence (Named.put name s ((overrides.lookup essence).getD [])) overrides) []

def ofSpecs (blueprint : String) (specs : List ComponentSpec) (strict : Option Bool) :
    RequestModel :=
  let fields := fieldsOf specs
  let name := "_" ++ blueprint ++ "@ContextModel"
  { specs := specs
    default := combined name fields
    variants := (overridesOf specs).map fun (essence, overridden) =>
      (essence, combined (name ++ "#" ++ essence) (overridden.foldl
        (fun fields (key, s) => Named.put key s fields) fields))
    strict := strict }

def modelFor (m : RequestModel) (contentType : Option String) : Schema :=
  match contentType.bind fun raw => m.variants.lookup (MediaType.read raw).essence with
  | some s => s
  | none => m.default

def extract (m : RequestModel) (parsers : BodyParsers) (r : Request) :
    Serving (List (String × Json)) :=
  m.specs.foldlM (fun members spec => do
    let data ← spec.component.extract parsers r spec.model
    return Json.insertMember spec.contextName data members) []

def check (m : RequestModel) (serializer : Serializer) (r : Request)
    (members : List (String × Json)) : Except Failure ParsedComponents :=
  let model := m.modelFor r.contentType?
  match serializer.check (.object members) model m.strict with
  | .ok (.object values) => .ok ⟨values⟩
  | .ok other => .error (.internal ("Combined model " ++ model.typeName ++
      " produced a non-object value: " ++ other.render))
  | .error details => .error (.invalid (serializer.present details) .badRequest)

def parse (m : RequestModel) (parsers : BodyParsers) (serializer : Serializer) (r : Request) :
    Serving ParsedComponents := do
  if m.specs.isEmpty then return .empty
  else
    let members ← m.extract parsers r
    liftM (m.check serializer r members)

end RequestModel

end Accord
