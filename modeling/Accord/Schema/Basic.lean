import Accord.Double
import Accord.Failure
import Accord.Json.Printer
import Accord.Pattern.Reader
import Accord.Text.Order

namespace Accord

/-- A member that an object can have. On the wire it goes by its alias, if it has one. -/
structure Field (σ : Type) where
  schema : σ
  required : Bool := true
  alias? : Option String := none
  fallback : Option Json := none
  deriving Inhabited

def Field.wireName {σ : Type} (f : Field σ) (name : String) : String := f.alias?.getD name

/-- A named object: its fields in order, the keys that always hold lists, the strictness it sets for
what is below it, and whether it refuses other members. -/
structure Model (σ : Type) where
  name : String
  fields : List (String × Field σ)
  forceList : List String := []
  strict : Option Bool := none
  denyUnknown : Bool := false
  deriving Inhabited

inductive Schema where
  | string (minLength maxLength : Option UInt64) (pattern : Option String)
  | integer (minimum maximum : Option Int64)
  | number (minimum maximum : Option Double)
  | boolean
  | null
  | any
  | literal (value : Json)
  | array (items : Schema) (minItems maxItems : Option UInt64)
  | object (model : Model Schema)
  | union (variants : List Schema)
  | optional (inner : Schema)
  | conditional (mapping : List (String × Schema))
  deriving Inhabited

namespace Schema

def showLiteral : Json → String
  | .string s => "'" ++ s ++ "'"
  | .null => "None"
  | .bool true => "True"
  | .bool false => "False"
  | v => v.render

mutual

def typeName : Schema → String
  | string .. => "str"
  | integer .. => "int"
  | number .. => "float"
  | boolean => "bool"
  | null => "None"
  | any => "Any"
  | literal value => "Literal[" ++ showLiteral value ++ "]"
  | array items _ _ => "list[" ++ typeName items ++ "]"
  | object model => model.name
  | union variants => "Union[" ++ Text.join ", " (typeNames variants) ++ "]"
  | optional inner => "Optional[" ++ typeName inner ++ "]"
  | conditional mapping => "Union[" ++ Text.join ", " (memberTypeNames mapping) ++ "]"
termination_by structural s => s

def typeNames : List Schema → List String
  | [] => []
  | s :: rest => typeName s :: typeNames rest
termination_by structural ss => ss

def memberTypeNames : List (String × Schema) → List String
  | [] => []
  | (_, s) :: rest => typeName s :: memberTypeNames rest
termination_by structural ms => ms

end

def isNull : Schema → Bool
  | null => true
  | _ => false

def model? : Schema → Option (Model Schema)
  | object model => some model
  | _ => none

def mapping? : Schema → Option (List (String × Schema))
  | conditional mapping => some mapping
  | _ => none

def findField? (key : String) (model : Model Schema) : Option (String × Field Schema) :=
  model.fields.find? fun (name, field) => field.wireName name == key || name == key

def sameBound : Option Double → Option Double → Bool
  | none, none => true
  | some x, some y => x.sameValue y
  | _, _ => false

def sameFallback : Option Json → Option Json → Bool
  | none, none => true
  | some v, some w => v.same w
  | _, _ => false

mutual

/-- Equality: fields and members of a mapping may come in any order, numbers compare by value, so that
no bound equals one that is no number, and patterns by their text. -/
def same : Schema → Schema → Bool
  | string lo hi p, string lo' hi' p' => lo == lo' && hi == hi' && p == p'
  | integer lo hi, integer lo' hi' => lo == lo' && hi == hi'
  | number lo hi, number lo' hi' => sameBound lo lo' && sameBound hi hi'
  | boolean, boolean => true
  | null, null => true
  | any, any => true
  | literal v, literal v' => v.same v'
  | array s lo hi, array s' lo' hi' => same s s' && lo == lo' && hi == hi'
  | object ⟨name, fields, forced, strict, deny⟩, object m' =>
    name == m'.name && fields.length == m'.fields.length && sameFields fields m'.fields &&
      forced == m'.forceList && strict == m'.strict && deny == m'.denyUnknown
  | union ss, union ss' => sameVariants ss ss'
  | optional s, optional s' => same s s'
  | conditional ms, conditional ms' => ms.length == ms'.length && sameMembers ms ms'
  | _, _ => false
termination_by structural s => s

def sameVariants : List Schema → List Schema → Bool
  | [], [] => true
  | s :: ss, s' :: ss' => same s s' && sameVariants ss ss'
  | _, _ => false
termination_by structural ss => ss

def sameFields : List (String × Field Schema) → List (String × Field Schema) → Bool
  | [], _ => true
  | (name, ⟨s, required, alias?, fallback⟩) :: rest, others =>
    (match others.lookup name with
    | some f => same s f.schema && required == f.required && alias? == f.alias? &&
        sameFallback fallback f.fallback
    | none => false) && sameFields rest others
termination_by structural fields => fields

def sameMembers : List (String × Schema) → List (String × Schema) → Bool
  | [], _ => true
  | (key, s) :: rest, others =>
    (match others.lookup key with
    | some s' => same s s'
    | none => false) && sameMembers rest others
termination_by structural ms => ms

end

instance : BEq Schema := ⟨same⟩

mutual

/-- The keys that hold lists wherever the schema is used, ascending. -/
def forceListKeys : Schema → List String
  | object model => model.forceList
  | optional inner => forceListKeys inner
  | union variants => Text.sortedSet (variantKeys variants)
  | conditional mapping => Text.sortedSet (memberKeys mapping)
  | _ => []
termination_by structural s => s

def variantKeys : List Schema → List String
  | [] => []
  | s :: rest => forceListKeys s ++ variantKeys rest
termination_by structural ss => ss

def memberKeys : List (String × Schema) → List String
  | [] => []
  | (_, s) :: rest => forceListKeys s ++ memberKeys rest
termination_by structural ms => ms

end

def isForcedList (s : Schema) (key : String) : Bool := s.forceListKeys.contains key

def refusedPattern (source : String) (refusal : Pattern.Refusal) : String :=
  "Invalid pattern '" ++ source ++ "'" ++
    match refusal with
    | .malformed => ""
    | .tooLarge => ": Compiled regex exceeds size limit of " ++ toString Pattern.weightLimit ++ " bytes."

mutual

def checkDefinition : Schema → Except Failure Unit
  | string _ _ (some source) =>
    match Pattern.read source with
    | .ok _ => .ok ()
    | .error refusal => .error (.misdeclared (refusedPattern source refusal))
  | array items _ _ => checkDefinition items
  | optional inner => checkDefinition inner
  | object ⟨_, fields, _, _, _⟩ => checkFieldDefinitions fields
  | union variants => checkVariantDefinitions variants
  | conditional mapping => checkMemberDefinitions mapping
  | _ => .ok ()
termination_by structural s => s

def checkFieldDefinitions : List (String × Field Schema) → Except Failure Unit
  | [] => .ok ()
  | (_, ⟨s, _, _, _⟩) :: rest => do checkDefinition s; checkFieldDefinitions rest
termination_by structural fields => fields

def checkVariantDefinitions : List Schema → Except Failure Unit
  | [] => .ok ()
  | s :: rest => do checkDefinition s; checkVariantDefinitions rest
termination_by structural ss => ss

def checkMemberDefinitions : List (String × Schema) → Except Failure Unit
  | [] => .ok ()
  | (_, s) :: rest => do checkDefinition s; checkMemberDefinitions rest
termination_by structural ms => ms

end

def ofMapping (entries : List (String × Schema)) : Except Failure Schema :=
  let mapping := Named.ofList entries
  if mapping.length < 2 then
    let shown := mapping.map fun (contentType, s) => "'" ++ contentType ++ "': " ++ s.typeName
    .error (.misdeclared ("conditional_type must be called with a mapping of length >= 2, got \x7b" ++
      Text.join ", " shown ++ "\x7d"))
  else .ok (.conditional mapping)

end Schema

end Accord
