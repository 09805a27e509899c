import Accord.Json.Record
import Accord.Schema.Basic

namespace Accord.Schema

def given {α : Type} (key : String) (write : α → Json) : Option α → List (String × Json)
  | none => []
  | some a => [(key, write a)]

def tagged (tag : String) (members : List (String × Json)) : Json :=
  Json.ofMembers (("type", .string tag) :: members)

def lengthForm (n : UInt64) : Json := .int n.toNat

def integerForm (n : Int64) : Json := .int n.toInt

def boundForm : Double → Json
  | .finite x => .float x
  | _ => .null

mutual

def toJson : Schema → Json
  | string lo hi pattern =>
    tagged "string" (given "min_length" lengthForm lo ++ given "max_length" lengthForm hi ++
      given "pattern" Json.string pattern)
  | integer lo hi =>
    tagged "integer" (given "minimum" integerForm lo ++ given "maximum" integerForm hi)
  | number lo hi => tagged "number" (given "minimum" boundForm lo ++ given "maximum" boundForm hi)
  | boolean => tagged "boolean" []
  | null => tagged "null" []
  | any => tagged "any" []
  | literal v => tagged "literal" [("value", v)]
  | array items lo hi =>
    tagged "array" (("items", toJson items) ::
      given "min_items" lengthForm lo ++ given "max_items" lengthForm hi)
  | object ⟨name, fields, forceList, strict, denyUnknown⟩ =>
    tagged "object" ([("name", .string name), ("fields", Json.ofMembers (fieldForms fields))] ++
      (if forceList.isEmpty then [] else [("force_list", Json.strings forceList)]) ++
      given "strict" Json.bool strict ++ [("deny_unknown", .bool denyUnknown)])
  | union variants => tagged "union" [("variants", .array (variantForms variants))]
  | optional inner => tagged "optional" [("inner", toJson inner)]
  | conditional mapping => tagged "conditional" [("mapping", Json.ofMembers (memberForms mapping))]
termination_by structural s => s

def fieldForms : List (String × Field Schema) → List (String × Json)
  | [] => []
  | (name, ⟨s, required, alias?, fallback⟩) :: rest =>
    (name, Json.ofMembers ([("schema", toJson s), ("required", .bool required)] ++
      given "alias" Json.string alias? ++ given "default" id fallback)) :: fieldForms rest
termination_by structural fields => fields

def variantForms : List Schema → List Json
  | [] => []
  | s :: rest => toJson s :: variantForms rest
termination_by structural ss => ss

def memberForms : List (String × Schema) → List (String × Json)
  | [] => []
  | (key, s) :: rest => (key, toJson s) :: memberForms rest
termination_by structural ms => ms

end

def tags : List String :=
  ["string", "integer", "number", "boolean", "null", "any", "literal", "array", "object", "union",
    "optional", "conditional"]

/-- The kind that a tag names; inside another form its place in the order will do. -/
def readTag (nested : Bool) : Json → Option String
  | .string tag => if tags.contains tag then some tag else none
  | .int n => if nested ∧ 0 ≤ n then tags[n.toNat]? else none
  | _ => none

/-- The tag of a form, which is not repeated, and the form without it. -/
def splitTag (nested : Bool) : Json → Option (String × Json)
  | .object members =>
    match members.filter fun (key, _) => key == "type" with
    | [(_, tag)] => (readTag nested tag).map fun tag =>
        (tag, .object (members.filter fun (key, _) => key != "type"))
    | _ => none
  | .array (tag :: items) => (readTag nested tag).map fun tag => (tag, .array items)
  | _ => none

def tagFields : String → List String
  | "string" => ["min_length", "max_length", "pattern"]
  | "integer" => ["minimum", "maximum"]
  | "number" => ["minimum", "maximum"]
  | "literal" => ["value"]
  | "array" => ["items", "min_items", "max_items"]
  | "object" => ["name", "fields", "force_list", "strict", "deny_unknown"]
  | "union" => ["variants"]
  | "optional" => ["inner"]
  | "conditional" => ["mapping"]
  | _ => []

def readPattern (v : Json) : Option String :=
  v.string?.filter Pattern.compiles

def readInteger (v : Json) : Option Int64 := v.int64?.map Int64.ofInt

def readBound (v : Json) : Option Double := v.binary64?.map Double.finite

def readField (read : Json → Option Schema) (v : Json) : Option (Field Schema) := do
  let fields ← v.record? ["schema", "required", "alias", "default"]
  return {
    schema := ← (← fields.lookup "schema") |> read
    required := ← Json.orDefault? true Json.bool? (fields.lookup "required")
    alias? := ← Json.optional? Json.string? (fields.lookup "alias")
    fallback := ← Json.optional? (fun v => some v.normalize) (fields.lookup "default") }

def readNamed {α : Type} (read : Json → Option α) (v : Json) : Option (Named α) := do
  let members ← v.members?
  let entries ← members.mapM fun (key, v) => (read v).map fun a => (key, a)
  return Named.ofList entries

def readString (fields : Named Json) : Option Schema :=
  return .string
    (← Json.optional? Json.uint64? (fields.lookup "min_length"))
    (← Json.optional? Json.uint64? (fields.lookup "max_length"))
    (← Json.optional? readPattern (fields.lookup "pattern"))

def readIntegers (fields : Named Json) : Option Schema :=
  return .integer
    (← Json.optional? readInteger (fields.lookup "minimum"))
    (← Json.optional? readInteger (fields.lookup "maximum"))

def readNumbers (fields : Named Json) : Option Schema :=
  return .number
    (← Json.optional? readBound (fields.lookup "minimum"))
    (← Json.optional? readBound (fields.lookup "maximum"))

def readArray (read : Json → Option Schema) (fields : Named Json) : Option Schema :=
  return .array
    (← (← fields.lookup "items") |> read)
    (← Json.optional? Json.uint64? (fields.lookup "min_items"))
    (← Json.optional? Json.uint64? (fields.lookup "max_items"))

def readObject (read : Json → Option Schema) (fields : Named Json) : Option Schema :=
  return .object {
    name := ← (← fields.lookup "name").string?
    fields := ← Json.orDefault? [] (readNamed (readField read)) (fields.lookup "fields")
    forceList := ← Json.orDefault? [] (fun v => v.strings?.map Text.sortedSet)
      (fields.lookup "force_list")
    strict := ← Json.optional? Json.bool? (fields.lookup "strict")
    denyUnknown := ← Json.orDefault? false Json.bool? (fields.lookup "deny_unknown") }

def readKind (read : Json → Option Schema) (tag : String) (fields : Named Json) : Option Schema :=
  match tag with
  | "string" => readString fields
  | "integer" => readIntegers fields
  | "number" => readNumbers fields
  | "boolean" => some .boolean
  | "null" => some .null
  | "any" => some .any
  | "literal" => return .literal (← fields.lookup "value").normalize
  | "array" => readArray read fields
  | "object" => readObject read fields
  | "union" => return .union (← (← (← fields.lookup "variants").items?).mapM read)
  | "optional" => return .optional (← (← fields.lookup "inner") |> read)
  | _ => return .conditional (← (← fields.lookup "mapping") |> readNamed read)

def readTagged (read : Json → Option Schema) (tag : String) (content : Json) : Option Schema :=
  (content.record? (tagFields tag)).bind (readKind read tag)

def readNested (nested : Bool) : Nat → Json → Option Schema
  | 0, _ => none
  | fuel + 1, v => do
    let (tag, content) ← splitTag nested v
    readTagged (readNested true fuel) tag content

def ofJson? (v : Json) : Option Schema := readNested false v.depth v

end Accord.Schema
