import Accord.Json.Basic
import Accord.Text.Case

namespace Accord

inductive LogFormat where
  | json
  | pretty
  deriving DecidableEq, Repr, Inhabited

def LogFormat.text : LogFormat → String
  | json => "json"
  | pretty => "pretty"

structure ValidationSettings where
  validateResponses : Bool := true
  strictRequests : Option Bool := none
  strictResponses : Bool := true
  deriving DecidableEq, Repr, Inhabited

structure HttpSettings where
  treatAsPost : List String := ["PUT", "PATCH", "DELETE"]
  allowedMethods : List String := []
  deriving DecidableEq, Repr, Inhabited

structure LoggingSettings where
  enabled : Bool := true
  level : String := "info"
  format : LogFormat := .json
  serviceName : String := "heron"
  deriving DecidableEq, Repr, Inhabited

structure Settings where
  validation : ValidationSettings := {}
  http : HttpSettings := {}
  logging : LoggingSettings := {}
  deriving DecidableEq, Repr, Inhabited

def ValidationSettings.toJson (s : ValidationSettings) : Json :=
  .object [("strict_request_validation", .ofOption .bool s.strictRequests),
    ("strict_response_validation", .bool s.strictResponses),
    ("validate_responses", .bool s.validateResponses)]

def HttpSettings.toJson (s : HttpSettings) : Json :=
  .object [("allowed_http_methods", .strings s.allowedMethods),
    ("treat_as_post", .strings s.treatAsPost)]

def LoggingSettings.toJson (s : LoggingSettings) : Json :=
  .object [("enabled", .bool s.enabled), ("format", .string s.format.text),
    ("level", .string s.level), ("service_name", .string s.serviceName)]

namespace Settings

def toJson (s : Settings) : Json :=
  .object [("http", s.http.toJson), ("logging", s.logging.toJson),
    ("validation", s.validation.toJson)]

def development : Settings := { logging := { level := "debug", format := .pretty } }

def production : Settings := { validation := { validateResponses := false } }

inductive Fault where
  | missingFile (path : String)
  | unreadableFile (path : String)
  | unknownFormat (format : String)
  | malformedToml
  | malformed (message : String)
  | malformedEnvironment
  | badOverride (name reason : String)
  | badValue (field reason : String)
  /-- The program stops, as a variable of the system is no text. -/
  | panic
  deriving DecidableEq, Repr, Inhabited

def Fault.message : Fault → String
  | missingFile path => "settings file " ++ path ++ " does not exist"
  | unreadableFile path => "cannot read settings file " ++ path
  | unknownFormat format => "unsupported settings format: " ++ format
  | malformedToml => "malformed TOML settings"
  | malformed message => "malformed settings: " ++ message
  | malformedEnvironment => "cannot load .env"
  | badOverride name reason => "environment override " ++ name ++ ": " ++ reason
  | badValue field reason => "invalid value for " ++ field ++ ": " ++ reason
  | panic => ""

def levels : List String := ["trace", "debug", "info", "warn", "error"]

def isUpperMethod (name : String) : Bool := !name.isEmpty && name.toList.all Char.isUpper

def isLowerMethod (name : String) : Bool :=
  !name.isEmpty && name.toList.all fun c => c.isLower || c == '_'

def check (s : Settings) : Except Fault Unit :=
  if !levels.contains (Text.lower s.logging.level) then
    .error (.badValue "logging.level" ("unknown log level: " ++ s.logging.level))
  else match s.http.treatAsPost.find? (!isUpperMethod ·) with
  | some name => .error (.badValue "http.treat_as_post" (name ++ " is not an uppercase method name"))
  | none =>
    match s.http.allowedMethods.find? (!isLowerMethod ·) with
    | some name =>
      .error (.badValue "http.allowed_http_methods" (name ++ " is not a valid HTTP method name"))
    | none => .ok ()

end Settings

end Accord
