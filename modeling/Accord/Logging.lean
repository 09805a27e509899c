import Accord.Pattern.Reader
import Accord.Settings.Basic
import Accord.Text.Number
import Accord.Text.Split

namespace Accord

structure LogSetup where
  enabled : Bool := true
  level : String := "info"
  jsonFormat : Bool := true
  spanEvents : Bool := false
  fileLineInfo : Bool := false
  threadIds : Bool := false
  includeTarget : Bool := true
  serviceName : String := "heron"
  deriving DecidableEq, Repr, Inhabited

namespace LogFilter

def levelNames : List String := ["error", "warn", "info", "debug", "trace", "off"]

/-- A name of a level in any case, its number, or nothing. -/
def isLevel (s : List Char) : Bool :=
  let text := String.ofList s
  text.isEmpty || levelNames.contains (Text.asciiLower text) ||
    (Text.uint64? text).any (· ≤ 5)

def isNumber (s : List Char) : Bool :=
  let text := String.ofList s
  let unsigned := Text.asciiLower (String.ofList (Text.takeSign s).2)
  ["inf", "infinity", "nan"].contains unsigned || (Text.uint64? text).isSome ||
    (Text.int64? text).isSome || (Text.binary64? text).isSome

def isFieldValue (s : List Char) : Bool :=
  isNumber s ||
    match Pattern.read (String.ofList s) with
    | .ok _ => true
    | .error _ => false

def isField (s : List Char) : Bool :=
  !s.isEmpty &&
    match (Text.splitChars '=' s)[1]? with
    | some value => isFieldValue value
    | none => true

/-- Where a place in a directive stands; a number tells where the part begins. -/
inductive Place where
  | start
  | target
  | span
  | field (first : Nat)
  | fields
  | closed
  | level (first : Nat)
  deriving DecidableEq, Repr

def slice (s : List Char) (first last : Nat) : List Char := (s.take last).drop first

def step (written : List Char) (place : Place) (i : Nat) (c : Char) : Option Place :=
  match place with
  | .start =>
    if c = '[' then some .span
    else if ['-', ':', '_'].contains c || Text.isAlphanumeric c then some .target
    else none
  | .target => some (if c = '=' then .level (i + 1) else if c = '[' then .span else .target)
  | .span => some (if c = ']' then .closed else if c = '\x7b' then .field (i + 1) else .span)
  | .field first =>
    if c = '\x7d' then (if isField (slice written first i) then some .fields else none)
    else some (.field first)
  | .fields => if c = ']' then some .closed else none
  | .closed => if c = '=' then some (.level (i + 1)) else none
  | .level first => some (.level first)

def walk (written : List Char) (place : Place) (i : Nat) : List Char → Bool
  | [] =>
    match place with
    | .target | .closed => true
    | .level first => isLevel (written.drop first)
    | _ => false
  | c :: rest =>
    match step written place i c with
    | some place => walk written place (i + 1) rest
    | none => false

def isValid (filter : String) : Bool :=
  ((Text.splitChars ',' filter.toList).filter (!·.isEmpty)).all fun directive =>
    walk directive .start 0 (Text.trimChars directive)

end LogFilter

namespace LogSetup

def development : LogSetup :=
  { level := "debug", jsonFormat := false, spanEvents := true, fileLineInfo := true }

def production : LogSetup := {}

def ofSettings (s : LoggingSettings) : LogSetup :=
  let base := match s.format with
    | .json => production
    | .pretty => development
  { base with enabled := s.enabled, level := s.level, serviceName := s.serviceName }

def isSound (s : LogSetup) : Bool := !s.enabled || LogFilter.isValid s.level

end LogSetup

end Accord
