import Accord.Component.RequestModel
import Accord.Contract.Check
import Accord.Report.Message

namespace Accord

def Json.ofNamed {α : Type} (f : α → Json) (named : Option (Named α)) : Json :=
  ofOption (fun entries => ofPairs (entries.map fun (name, a) => (name, f a))) named

def ResponseSpec.report (s : ResponseSpec) : Json :=
  Json.ofMembers [("type", .string s.returnType.typeName), ("status", Json.ofNat s.status.code),
    ("headers", .ofNamed HeaderSpec.toJson s.headers),
    ("cookies", .ofNamed CookieSpec.toJson s.cookies), ("description", .ofText s.description),
    ("limit_to_content_types", .ofOption .strings s.limitToContentTypes)]

def Modification.report (contentType : String) (m : Modification) : Json :=
  Json.ofMembers [("spec", m.toSpec.report),
    ("headers", .ofNamed (fun h => .bool h.added?.isSome) m.headers),
    ("cookies", .ofNamed (fun c => .bool c.added?.isSome) m.cookies),
    ("actionable_headers", .ofNamed NewHeader.toJson m.addedHeaders),
    ("actionable_cookies", .ofNamed NewCookie.toJson m.addedCookies),
    ("built_headers", .ofTextPairs (m.headersFor contentType))]

def ComponentSpec.report (s : ComponentSpec) : Json :=
  Json.ofMembers [("class", .string s.component.className), ("context", .string s.contextName),
    ("model", .string s.model.typeName), ("args", .strings (s.typeArgs.map Schema.typeName))]

def Schema.reportNamed (schemas : Named Schema) : Json :=
  .ofPairs (schemas.map fun (name, s) => (name, .string s.typeName))

def Schema.reportModel (s : Schema) : Json :=
  let fields := (s.model?.map Model.fields).getD []
  .array [.string s.typeName, .array (fields.map fun (name, f) =>
    .array [.string name, .string f.schema.typeName, .bool f.required])]

def RequestModel.report (contentTypes : List (Option String)) (m : RequestModel) : Json :=
  Json.ofMembers [("default", m.default.reportModel),
    ("conditional", .ofPairs (m.variants.map fun (essence, s) => (essence, s.reportModel))),
    ("specs", Json.ofNat m.specs.length),
    ("model_for", .strings (contentTypes.map fun ct => (m.modelFor ct).typeName))]

def Contract.report {m : Type → Type} (c : Contract m) : Json :=
  Json.ofMembers [("method", .string c.method), ("validate_responses", .bool c.validateResponses),
    ("responses", .array (c.responses.map ResponseSpec.report)),
    ("modification", .ofOption (fun m => m.toSpec.report) c.modification),
    ("error_handler", .bool c.errorHandler.isSome),
    ("components", .array (c.components.map ComponentSpec.report)),
    ("parsers", .strings c.parsers.names), ("renderers", .strings c.renderers.names),
    ("auth", .ofOption (fun providers => Json.ofNat providers.length) c.auth),
    ("no_validate_http_spec", .strings (c.skippedRules.map BodyRule.text)),
    ("allowed_http_methods", .strings c.allowedMethods), ("summary", .ofText c.summary),
    ("description", .ofText c.description), ("tags", .ofOption .strings c.tags),
    ("operation_id", .ofText c.operationId), ("deprecated", .bool c.deprecated)]

def RawAnswer.report (a : RawAnswer) : Json :=
  Json.ofMembers [("raw", a.data), ("status", Json.ofNat a.status.code),
    ("headers", .ofTextPairs a.headers),
    ("cookies", .ofOption (fun cookies => .strings cookies.names) a.cookies),
    ("renderer", .string a.renderer.contentType)]

end Accord
