import Accord.Schema.Basic
import Accord.Text.Number

namespace Accord.Schema

/-- How strict a check is: what its caller forces, else what the nearest object sets. -/
structure Mode where
  forced : Option Bool
  inherited : Bool

def Mode.isStrict (m : Mode) : Bool := m.forced.getD m.inherited

def Mode.inside (m : Mode) (strict : Option Bool) : Mode := ⟨m.forced, strict.getD m.inherited⟩

structure Complaint where
  kind : String
  message : String

def Complaint.atPath (path : List Step) (c : Complaint) : Detail := ⟨c.message, some path, c.kind⟩

def plural (n : Nat) : String := if n = 1 then "" else "s"

def textComplaints (minLength maxLength : Option UInt64) (pattern : Option String) (s : String) :
    List Complaint :=
  let short := match minLength with
    | some least =>
      if s.length < least.toNat then
        [⟨"string_too_short", "String should have at least " ++ toString least.toNat ++ " character" ++
          plural least.toNat⟩]
      else []
    | none => []
  let long := match maxLength with
    | some most =>
      if most.toNat < s.length then
        [⟨"string_too_long", "String should have at most " ++ toString most.toNat ++ " character" ++
          plural most.toNat⟩]
      else []
    | none => []
  let form := match pattern with
    | some source =>
      match Pattern.read source with
      | .ok e =>
        if e.occursIn s then []
        else [⟨"string_pattern_mismatch", "String should match pattern '" ++ source ++ "'"⟩]
      | .error refusal => [⟨"value_error", refusedPattern source refusal⟩]
    | none => []
  short ++ long ++ form

def tooSmall (bound : String) : Complaint :=
  ⟨"greater_than_equal", "Input should be greater than or equal to " ++ bound⟩

def tooLarge (bound : String) : Complaint :=
  ⟨"less_than_equal", "Input should be less than or equal to " ++ bound⟩

def integerComplaints (minimum maximum : Option Int64) (n : Int) : List Complaint :=
  let below := match minimum with
    | some least => if n < least.toInt then [tooSmall (toString least.toInt)] else []
    | none => []
  let above := match maximum with
    | some most => if most.toInt < n then [tooLarge (toString most.toInt)] else []
    | none => []
  below ++ above

/-- A bound that is no number is kept by every number. -/
def numberComplaints (minimum maximum : Option Double) (x : Binary64) : List Complaint :=
  let below := match minimum with
    | some least => if Double.below x least then [tooSmall (least.write Decimal.plain)] else []
    | none => []
  let above := match maximum with
    | some most => if most.below x then [tooLarge (most.write Decimal.plain)] else []
    | none => []
  below ++ above

def lengthComplaints (minItems maxItems : Option UInt64) (length : Nat) : List Complaint :=
  let short := match minItems with
    | some least =>
      if length < least.toNat then
        [⟨"too_short", "List should have at least " ++ toString least.toNat ++ " item" ++
          plural least.toNat ++ " after validation, not " ++ toString length⟩]
      else []
    | none => []
  let long := match maxItems with
    | some most =>
      if most.toNat < length then
        [⟨"too_long", "List should have at most " ++ toString most.toNat ++ " item" ++
          plural most.toNat ++ " after validation, not " ++ toString length⟩]
      else []
    | none => []
  short ++ long

def integerLimit : Nat := 9000000000000000

def outOfRange : Complaint :=
  ⟨"int_parsing", "Input should be a valid integer, value is out of range"⟩

def toInteger (strict : Bool) (v : Json) : Except Complaint Int :=
  let notInteger : Complaint := ⟨"int_type", "Input should be a valid integer"⟩
  match v with
  | .int n =>
    match v.int64? with
    | some n => .ok n
    | none => if 0 ≤ n then .error outOfRange else .error notInteger
  | .float x =>
    if strict then .error notInteger
    else if !x.isIntegral then
      .error ⟨"int_from_float",
        "Input should be a valid integer, got a number with a fractional part"⟩
    else if x.units < integerLimit * Binary64.unitsOfOne then .ok x.truncate
    else .error outOfRange
  | .string s =>
    if strict then .error notInteger
    else match Text.int64? (Text.trim s) with
      | some n => .ok n
      | none => .error ⟨"int_parsing",
          "Input should be a valid integer, unable to parse string as an integer"⟩
  | _ => .error notInteger

def toNumber (strict : Bool) (v : Json) : Except Complaint Binary64 :=
  let notNumber : Complaint := ⟨"float_type", "Input should be a valid number"⟩
  match v with
  | .int n => .ok (Binary64.ofInt n)
  | .float x => .ok x
  | .string s =>
    if strict then .error notNumber
    else match Text.binary64? (Text.trim s) with
      | some x => .ok x
      | none => .error ⟨"float_parsing",
          "Input should be a valid number, unable to parse string as a number"⟩
  | _ => .error notNumber

def trueWords : List String := ["1", "true", "t", "yes", "y", "on"]

def falseWords : List String := ["0", "false", "f", "no", "n", "off"]

def toBoolean (strict : Bool) (v : Json) : Except Complaint Bool :=
  let notBoolean : Complaint := ⟨"bool_type", "Input should be a valid boolean"⟩
  let unclear : Complaint :=
    ⟨"bool_parsing", "Input should be a valid boolean, unable to interpret input"⟩
  match v with
  | .bool b => .ok b
  | .string s =>
    if strict then .error notBoolean
    else
      let word := Text.asciiLower (Text.trim s)
      if trueWords.contains word then .ok true
      else if falseWords.contains word then .ok false
      else .error unclear
  | .int n =>
    if strict then .error notBoolean
    else if n = 1 then .ok true
    else if n = 0 then .ok false
    else .error unclear
  | .float _ => if strict then .error notBoolean else .error unclear
  | _ => .error notBoolean

abbrev Verdict := Except (List Complaint) Json

def Verdict.unless (complaints : List Complaint) (v : Json) : Verdict :=
  if complaints.isEmpty then .ok v else .error complaints

def checkString (minLength maxLength : Option UInt64) (pattern : Option String) (v : Json) :
    Verdict :=
  match v with
  | .string s => .unless (textComplaints minLength maxLength pattern s) v
  | _ => .error [⟨"string_type", "Input should be a valid string"⟩]

def checkInteger (minimum maximum : Option Int64) (strict : Bool) (v : Json) : Verdict :=
  match toInteger strict v with
  | .ok n => .unless (integerComplaints minimum maximum n) (.int n)
  | .error c => .error [c]

/-- Integers that are given for numbers stay integers. -/
def checkNumber (minimum maximum : Option Double) (strict : Bool) (v : Json) : Verdict :=
  match toNumber strict v with
  | .ok x =>
    .unless (numberComplaints minimum maximum x) (match v with
      | .int n => .int n
      | _ => .float x)
  | .error c => .error [c]

def checkBoolean (strict : Bool) (v : Json) : Verdict :=
  match toBoolean strict v with
  | .ok b => .ok (.bool b)
  | .error c => .error [c]

def checkNull (v : Json) : Verdict :=
  if v.isNull then .ok .null else .error [⟨"none_required", "Input should be None"⟩]

def checkLiteral (expected v : Json) : Verdict :=
  if v.same expected then .ok v
  else .error [⟨"literal_error", "Input should be " ++ showLiteral expected⟩]

/-- The checked value, if there is one, and all details collected so far. -/
abbrev Checked (α : Type) := Option α × List Detail

def Verdict.report (path : List Step) (errors : List Detail) : Verdict → Checked Json
  | .ok v => (some v, errors)
  | .error complaints => (none, errors ++ complaints.map (Complaint.atPath path))

def complain {α : Type} (path : List Step) (errors : List Detail) (kind message : String) :
    Checked α :=
  (none, errors ++ [⟨message, some path, kind⟩])

def walkItems (check : Json → List Step → List Detail → Checked Json) (path : List Step) :
    Nat → List Json → List Detail → Checked (List Json)
  | _, [], errors => (some [], errors)
  | i, v :: vs, errors =>
    let (out, errors) := check v (path ++ [.index i]) errors
    let (outs, errors) := walkItems check path (i + 1) vs errors
    match out, outs with
    | some out, some outs => (some (out :: outs), errors)
    | _, _ => (none, errors)

/-- The member of an object that a field means: by the wire name, else by its own name. -/
def memberFor (wire name : String) (members : List (String × Json)) : Option Json :=
  match members.lookup wire with
  | some v => some v
  | none => members.lookup name

def unknownMembers (model : Model Schema) (members : List (String × Json)) (path : List Step) :
    List Detail :=
  (members.filter fun (key, _) => (findField? key model).isNone).map fun (key, _) =>
    ⟨"Extra inputs are not permitted", some (path ++ [.key key]), "extra_forbidden"⟩

mutual

def check (s : Schema) (v : Json) (path : List Step) (mode : Mode) (errors : List Detail) :
    Checked Json :=
  match s with
  | any => (some v, errors)
  | null => (checkNull v).report path errors
  | optional inner => if v.isNull then (some .null, errors) else check inner v path mode errors
  | literal expected => (checkLiteral expected v).report path errors
  | string lo hi pattern => (checkString lo hi pattern v).report path errors
  | integer lo hi => (checkInteger lo hi mode.isStrict v).report path errors
  | number lo hi => (checkNumber lo hi mode.isStrict v).report path errors
  | boolean => (checkBoolean mode.isStrict v).report path errors
  | array items lo hi =>
    match v with
    | .array vs =>
      let complaints := lengthComplaints lo hi vs.length
      let (outs, errors) := walkItems (fun v path errors => check items v path mode errors) path 0 vs
        (errors ++ complaints.map (Complaint.atPath path))
      (if complaints.isEmpty then outs.map .array else none, errors)
    | _ => complain path errors "list_type" "Input should be a valid list"
  | object ⟨name, fields, forceList, strict, denyUnknown⟩ =>
    match v with
    | .object members =>
      let (out, found) := checkFields fields members path (mode.inside strict) [] errors
      let found := if denyUnknown then
        found ++ unknownMembers ⟨name, fields, forceList, strict, denyUnknown⟩ members path else found
      (if found.length = errors.length then some (.object out) else none, found)
    | _ => complain path errors "model_type"
        ("Input should be a valid dictionary or instance of " ++ name)
  | union variants =>
    match checkVariants variants v mode with
    | .ok out => (some out, errors)
    | .error details => (none, errors ++ details.map (Detail.under path))
  | conditional mapping =>
    match checkMembers mapping v mode with
    | .ok out => (some out, errors)
    | .error details => (none, errors ++ details.map (Detail.under path))
termination_by structural s

def checkFields (fields : List (String × Field Schema)) (members : List (String × Json))
    (path : List Step) (mode : Mode) (out : List (String × Json)) (errors : List Detail) :
    List (String × Json) × List Detail :=
  match fields with
  | [] => (out, errors)
  | (name, ⟨s, required, alias?, fallback⟩) :: rest =>
    let wire := alias?.getD name
    match memberFor wire name members with
    | some v =>
      let (checked, errors) := check s v (path ++ [.key wire]) mode errors
      let out := match checked with
        | some v => Json.insertMember name v out
        | none => out
      checkFields rest members path mode out errors
    | none =>
      match fallback with
      | some v => checkFields rest members path mode (Json.insertMember name v out) errors
      | none =>
        let missing : Detail := ⟨"Field required", some (path ++ [.key wire]), "missing"⟩
        checkFields rest members path mode out (if required then errors ++ [missing] else errors)
termination_by structural fields

def checkVariants (variants : List Schema) (v : Json) (mode : Mode) : Except (List Detail) Json :=
  match variants with
  | [] => .error []
  | s :: rest =>
    match check s v [] mode [] with
    | (some out, []) => .ok out
    | (_, errors) =>
      match checkVariants rest v mode with
      | .ok out => .ok out
      | .error more => .error (errors.map (Detail.under [.key s.typeName]) ++ more)
termination_by structural variants

def checkMembers (mapping : List (String × Schema)) (v : Json) (mode : Mode) :
    Except (List Detail) Json :=
  match mapping with
  | [] => .error []
  | (_, s) :: rest =>
    match check s v [] mode [] with
    | (some out, []) => .ok out
    | (_, errors) =>
      match checkMembers rest v mode with
      | .ok out => .ok out
      | .error more => .error (errors.map (Detail.under [.key s.typeName]) ++ more)
termination_by structural mapping

end

def validate (s : Schema) (v : Json) (strict : Option Bool) : Except (List Detail) Json :=
  match s.check v [] ⟨strict, false⟩ [] with
  | (out, []) => .ok (out.getD .null)
  | (_, errors) => .error errors

end Accord.Schema
