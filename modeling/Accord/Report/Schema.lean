import Accord.Report.Contract
import Accord.Schema.Check
import Accord.Schema.Form

namespace Accord

def Schema.reportCheck (s : Schema) (strict : Option Bool) (v : Json) : Json :=
  match s.validate v strict with
  | .ok out => .object [("ok", out)]
  | .error details => .object [("errors", .array (details.map Detail.toJson))]

def Schema.reportField (s : Schema) (key : String) : Json :=
  match s.model?.bind (Schema.findField? key ·) with
  | some (name, f) => .array [.string name, .string (f.wireName name), .bool f.required]
  | none => .null

def Schema.report (s : Schema) (soundness : Json) (keys : List String) : Json :=
  let form := s.toJson
  let same := match Schema.ofJson? form with
    | some t => .bool (t.same s)
    | none => .object [("error", .string "Decode")]
  Json.ofMembers [("schema", form), ("round_trip", same), ("type_name", .string s.typeName),
    ("display", .string s.typeName), ("is_null", .bool s.isNull), ("check", soundness),
    ("conditional", .ofOption Schema.reportNamed s.mapping?),
    ("force_list", .strings s.forceListKeys),
    ("forced", .array (keys.map fun key => .bool (s.isForcedList key))),
    ("find", .array (keys.map s.reportField)),
    ("fields", .ofOption (fun m => .strings (m.fields.map Prod.fst)) s.model?)]

end Accord
