import Accord.Classes.Graph
import Accord.Logging
import Accord.Report.Contract
import Accord.Service.Controller
import Accord.Trial.Draft

namespace Accord

def Endpoint.report {m : Type → Type} (e : Endpoint m) : Json :=
  .array [.string e.name,
    .array (e.contract.responses.map fun spec => Json.ofNat spec.status.code),
    .strings e.contract.parsers.names, .bool e.contract.validateResponses]

def Controller.report {m : Type → Type} (c : Controller m) : Json :=
  let first := c.endpoints.values.head?
  Json.ofMembers [("name", .string c.name), ("allowed", .strings c.allowedMethods),
    ("endpoints", .array (c.endpoints.values.map Endpoint.report)),
    ("components", .ofOption (fun (e : Endpoint m) =>
      .array (e.contract.components.map ComponentSpec.report)) first)]

def LogSetup.report (s : LogSetup) : Json :=
  Json.ofMembers [("enabled", .bool s.enabled), ("level", .string s.level),
    ("json_format", .bool s.jsonFormat), ("span_events", .bool s.spanEvents),
    ("file_line_info", .bool s.fileLineInfo), ("thread_ids", .bool s.threadIds),
    ("include_target", .bool s.includeTarget), ("service_name", .string s.serviceName)]

def ClassEntry.report (name : String) (e : ClassEntry) : Json :=
  .array [.string name, .strings e.params, .strings (e.bases.map BaseRef.text)]

def BaseRef.report (b : BaseRef) : Json :=
  .array [.string b.text, .strings b.freeParams, .bool b.isConcrete]

def Request.reportSent (r : Request) : Json :=
  Json.ofMembers [("method", .string r.method), ("uri", .string r.uri.text),
    ("headers", r.headers.report), ("body", .ofBytes r.body),
    ("path_params", .ofTextPairs r.pathParams), ("query", .ofTextPairs r.queryPairs),
    ("cookies", .ofTextPairs r.cookies)]

end Accord
