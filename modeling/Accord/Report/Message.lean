import Accord.Body.Form
import Accord.Message.Response

namespace Accord

namespace Json

def ofBytes (bytes : Bytes) : Json :=
  match Text.ofUtf8? bytes with
  | some s => .string s
  | none => .object [("hex", .string (String.join (bytes.map fun b => hexByte b.toNat)))]

def ofPairs (pairs : List (String × Json)) : Json :=
  .array (pairs.map fun (key, value) => .array [.string key, value])

def ofTextPairs (pairs : List (String × String)) : Json :=
  ofPairs (pairs.map fun (key, value) => (key, .string value))

def ofText (text : Option String) : Json := ofOption .string text

end Json

def Headers.report (h : Headers) : Json :=
  .ofPairs ((h.entries.mergeSort fun (a, _) (b, _) => decide (a ≤ b)).map fun (name, value) =>
    (name, .ofBytes value))

def Response.report (r : Response) : Json :=
  Json.ofMembers [("status", Json.ofNat r.status.code), ("headers", r.headers.report),
    ("body", .ofBytes r.body),
    ("cookies", .ofPairs (r.cookies.map fun (name, c) => (name, c.toJson)))]

def Form.report (f : Form) : Json :=
  Json.ofMembers [("fields", .ofTextPairs f.fields),
    ("files", .array (f.files.map fun (name, file) =>
      .array [.string name, file.describe name, .ofBytes file.data]))]

def MediaType.report (m : MediaType) : Json :=
  Json.ofMembers [("main", .string m.main), ("sub", .string m.sub), ("params", .ofTextPairs m.params),
    ("range_params", .ofTextPairs m.rangeParams), ("essence", .string m.essence),
    ("all", .bool m.isAny), ("quality", .float m.quality),
    ("specificity", Json.ofNat m.specificity), ("display", .string m.text)]

def MediaType.reportFit (a b : String) : Json :=
  let x := read a
  let y := read b
  .array ([x.fits y, y.fits x, x.fitsText b, x.same y].map .bool)

def NewCookie.report (c : NewCookie) (dateAfter : Int → String) (name : String) (spec : CookieSpec) :
    Json :=
  Json.ofMembers [("new", c.toJson), ("spec", spec.toJson), ("to_spec", c.toSpec.toJson),
    ("equal", .bool (spec.admits c)), ("header", .string (c.headerText dateAfter name)),
    ("debug", .string (c.listing ++ " " ++ spec.listing)),
    ("samesite", .string c.attrs.sameSite.text)]

def Response.reportAll (r : Response) (sent : Json) : Json :=
  Json.ofMembers [("response", r.report), ("content_type", .ofText r.contentType?), ("http", sent)]

def Request.report (lookup : List String) (r : Request) : Json :=
  Json.ofMembers [("method", .string r.method), ("uri", .string r.uri.text),
    ("path", .string r.path), ("headers", r.headers.report),
    ("lookup", .array (lookup.map fun name => .ofText (r.header? name))),
    ("body", .ofBytes r.body), ("path_params", .ofTextPairs r.pathParams),
    ("path_args", .strings r.pathArgs), ("content_type", .ofText r.contentType?),
    ("accept", .ofText r.accept?), ("accepted", .strings (r.acceptedTypes.map MediaType.text)),
    ("query_pairs", .ofTextPairs r.queryPairs),
    ("query", .ofPairs ((Query.group r.queryPairs).map fun (key, values) => (key, .strings values))),
    ("cookies", .ofTextPairs r.cookies)]

end Accord
