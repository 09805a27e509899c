import Accord.Report.Message
import Accord.Settings.Basic
import Accord.Trial.Draft

namespace Accord

namespace Failure

def name : Failure → String
  | unsolvable _ => "UnsolvableAnnotations"
  | misdeclared _ => "EndpointMetadata"
  | unreadable _ => "DataParsing"
  | unsupported _ => "RequestSerialization"
  | brokenContract .. => "ResponseSchema"
  | notAcceptable _ => "NotAcceptable"
  | notAuthenticated _ => "NotAuthenticated"
  | invalid .. => "Validation"
  | raised .. => "Api"
  | internal _ => "InternalServer"

def report (f : Failure) : Json :=
  Json.ofMembers [("error", .string f.name), ("message", .string f.message),
    ("status", Json.ofNat f.status.code), ("envelope", f.envelope)]

def reportAll (f : Failure) : Json :=
  Json.ofMembers [("kind", .string f.name), ("message", .string f.message),
    ("category", .string f.category.text), ("status", Json.ofNat f.status.code),
    ("type", .strings [f.kind, f.kind]), ("details", .array (f.details.map Detail.toJson)),
    ("envelope", f.envelope)]

end Failure

def Detail.report (d : Detail) : Json :=
  Json.ofMembers [("detail", d.toJson), ("loc", .strings ((d.path.getD []).map Step.text))]

def Settings.Fault.report (f : Settings.Fault) : Json :=
  let name := match f with
    | .missingFile _ => "MissingFile"
    | .unreadableFile _ => "Unreadable"
    | .unknownFormat _ => "UnsupportedFormat"
    | .malformedToml => "Toml"
    | .malformed _ => "Json"
    | .malformedEnvironment => "Dotenv"
    | .badOverride .. => "EnvOverride"
    | .badValue .. => "InvalidValue"
    | .panic => "Panic"
  Json.ofMembers [("error", .string name), ("message", .string f.message)]

def Trial.Fault.report (f : Trial.Fault) : Json :=
  let name := match f with
    | .request _ => "RequestBuild"
    | .body _ => "BodyRead"
    | .json _ => "Json"
    | .header _ => "InvalidHeader"
  Json.ofMembers [("error", .string name), ("message", .string f.message)]

end Accord
