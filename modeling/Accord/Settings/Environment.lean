import Accord.Settings.Basic
import Accord.Text.Order
import Accord.Text.Split
import Accord.Text.Utf8

namespace Accord

/-- Variables as the system holds them: names and values are bytes, which need not be texts. -/
abbrev Environment := List (Bytes × Bytes)

namespace Environment

def ofTexts (texts : Named String) : Environment :=
  texts.map fun (name, value) => (Text.utf8 name, Text.utf8 value)

instance : Coe (Named String) Environment := ⟨ofTexts⟩

def read? (v : Bytes × Bytes) : Option (String × String) := do
  return (← Text.ofUtf8? v.1, ← Text.ofUtf8? v.2)

def texts? (e : Environment) : Option (Named String) :=
  if e.all fun v => (read? v).isSome then some (e.filterMap read?) else none

def text? (name : String) (e : Environment) : Option String :=
  (e.lookup (Text.utf8 name)).bind Text.ofUtf8?

/-- Sets a variable, unless it is set to a text. -/
def define (name value : String) (e : Environment) : Environment :=
  if (e.text? name).isSome then e
  else e.filter (fun v => v.1 != Text.utf8 name) ++ [(Text.utf8 name, Text.utf8 value)]

end Environment

namespace Settings

def bool? (value : String) : Option Bool :=
  let value := Text.lower value
  if ["true", "1", "yes", "on"].contains value then some true
  else if ["false", "0", "no", "off"].contains value then some false
  else none

def listOf (value : String) : List String :=
  ((Text.split ',' value).map Text.trim).filter (!·.isEmpty)

def splitPath : List Char → List (List Char)
  | [] => [[]]
  | '_' :: '_' :: rest => [] :: splitPath rest
  | c :: rest =>
    match splitPath rest with
    | piece :: pieces => (c :: piece) :: pieces
    | [] => [[c]]

/-- The section and the key that a variable names, if its name starts with this one. -/
def pathOf? (lead name : String) : Option (List String) :=
  let start := lead.toList ++ ['_', '_']
  if start.isPrefixOf name.toList then
    some ((splitPath (name.toList.drop start.length)).map String.ofList)
  else none

def boolOf (name value : String) : Except Fault Bool :=
  match bool? value with
  | some b => .ok b
  | none => .error (.badOverride name "expected boolean")

def strictnessOf (name value : String) : Except Fault (Option Bool) :=
  if value.isEmpty || Text.asciiLower value == "none" then .ok none
  else (boolOf name value).map some

def formatOf (name value : String) : Except Fault LogFormat :=
  match Text.lower value with
  | "json" => .ok .json
  | "pretty" => .ok .pretty
  | _ => .error (.badOverride name "expected 'json' or 'pretty'")

/-- Overrides the setting at a path; other paths do not count. -/
def override (name value : String) (path : List String) (s : Settings) : Except Fault Settings := do
  match path with
  | ["VALIDATION", "VALIDATE_RESPONSES"] =>
    return { s with validation.validateResponses := ← boolOf name value }
  | ["VALIDATION", "STRICT_REQUEST_VALIDATION"] =>
    return { s with validation.strictRequests := ← strictnessOf name value }
  | ["VALIDATION", "STRICT_RESPONSE_VALIDATION"] =>
    return { s with validation.strictResponses := ← boolOf name value }
  | ["HTTP", "TREAT_AS_POST"] => return { s with http.treatAsPost := listOf value }
  | ["HTTP", "ALLOWED_HTTP_METHODS"] => return { s with http.allowedMethods := listOf value }
  | ["LOGGING", "ENABLED"] => return { s with logging.enabled := ← boolOf name value }
  | ["LOGGING", "LEVEL"] => return { s with logging.level := value }
  | ["LOGGING", "FORMAT"] => return { s with logging.format := ← formatOf name value }
  | ["LOGGING", "SERVICE_NAME"] => return { s with logging.serviceName := value }
  | _ => return s

def withVariables (lead : String) (e : Named String) (s : Settings) : Except Fault Settings :=
  e.foldlM (fun s (name, value) =>
    match pathOf? lead name with
    | some path => override name value path s
    | none => .ok s) s

end Settings

end Accord
