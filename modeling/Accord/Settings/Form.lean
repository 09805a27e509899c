import Accord.Json.Typed
import Accord.Settings.Basic

namespace Accord

namespace Settings

abbrev Reader (α : Type) := Json → Except String α

def mistyped {α : Type} (expected : String) (v : Json) : Except String α :=
  .error (v.mistyped expected)

def readBool : Reader Bool
  | .bool b => .ok b
  | v => mistyped "a boolean" v

def readText : Reader String
  | .string s => .ok s
  | v => mistyped "a string" v

def readTexts : Reader (List String)
  | .array items => items.mapM readText
  | v => mistyped "a sequence" v

def readOptional {α : Type} (read : Reader α) : Reader (Option α)
  | .null => .ok none
  | v => (read v).map some

def quotedName (name : String) : String := "`" ++ name ++ "`"

def alternatives : List String → String
  | [a, b] => quotedName a ++ " or " ++ quotedName b
  | names => "one of " ++ Text.join ", " (names.map quotedName)

def formats : List LogFormat := [.json, .pretty]

def readFormatName (name : String) : Except String LogFormat :=
  match formats.find? fun format => format.text == name with
  | some format => .ok format
  | none => .error ("unknown variant " ++ quotedName name ++ ", expected " ++
      alternatives (formats.map LogFormat.text))

/-- A format is its name, or the one name in an object, with null. -/
def readFormat : Reader LogFormat
  | .string name => readFormatName name
  | .object [(name, v)] => do
    let format ← readFormatName name
    if v.isNull then return format else mistyped "unit" v
  | .object _ => .error "invalid value: map, expected map with a single key"
  | v => mistyped "string or map" v

structure SectionField (σ : Type) where
  name : String
  put : Json → σ → Except String σ

def SectionField.of {σ α : Type} (name : String) (read : Reader α) (store : α → σ → σ) :
    SectionField σ :=
  ⟨name, fun v s => (read v).map fun a => store a s⟩

def putMembers {σ : Type} (fields : List (SectionField σ)) (s : σ) (members : List (String × Json)) :
    Except String σ :=
  members.foldlM (fun s (key, v) =>
    match fields.find? fun field => field.name == key with
    | some field => field.put v s
    | none => .error ("unknown field " ++ quotedName key ++ ", expected " ++
        alternatives (fields.map SectionField.name))) s

def putItems {σ : Type} (fields : List (SectionField σ)) (s : σ) (items : List Json) :
    Except String σ := do
  let s ← (fields.zip items).foldlM (fun s (field, v) => field.put v s) s
  if fields.length < items.length then
    .error ("invalid length " ++ toString items.length ++ ", expected fewer elements in array")
  else return s

def readSection {σ : Type} (title : String) (fields : List (SectionField σ)) (default : σ) : Reader σ
  | .object members => putMembers fields default members
  | .array items => putItems fields default items
  | v => mistyped ("struct " ++ title) v

def validationFields : List (SectionField ValidationSettings) := [
  .of "validate_responses" readBool fun b s => { s with validateResponses := b },
  .of "strict_request_validation" (readOptional readBool) fun b s => { s with strictRequests := b },
  .of "strict_response_validation" readBool fun b s => { s with strictResponses := b }]

def httpFields : List (SectionField HttpSettings) := [
  .of "treat_as_post" readTexts fun names s => { s with treatAsPost := names },
  .of "allowed_http_methods" readTexts fun names s => { s with allowedMethods := names }]

def loggingFields : List (SectionField LoggingSettings) := [
  .of "enabled" readBool fun b s => { s with enabled := b },
  .of "level" readText fun level s => { s with level := level },
  .of "format" readFormat fun format s => { s with format := format },
  .of "service_name" readText fun name s => { s with serviceName := name }]

def readValidation : Reader ValidationSettings := readSection "ValidationSettings" validationFields {}

def readHttp : Reader HttpSettings := readSection "HttpSettings" httpFields {}

def readLogging : Reader LoggingSettings := readSection "LoggingSettings" loggingFields {}

def sections : List (SectionField Settings) := [
  .of "validation" readValidation fun section_ s => { s with validation := section_ },
  .of "http" readHttp fun section_ s => { s with http := section_ },
  .of "logging" readLogging fun section_ s => { s with logging := section_ }]

def ofJson : Reader Settings := readSection "HeronSettings" sections {}

end Settings

end Accord
