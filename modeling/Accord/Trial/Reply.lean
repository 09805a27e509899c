import Accord.Json.Typed
import Accord.Message.Response
import Accord.Trial.Draft

namespace Accord.Trial.Reply

def text (r : Response) : Except Fault String :=
  match Text.findFault? none 0 0 r.body with
  | none => .ok (Text.ofUtf8Lossy r.body)
  | some ⟨index, some length⟩ =>
    .error (.body ("Invalid UTF-8: invalid utf-8 sequence of " ++ toString length ++
      " bytes from index " ++ toString index))
  | some ⟨index, none⟩ =>
    .error (.body ("Invalid UTF-8: incomplete utf-8 byte sequence from index " ++ toString index))

def json (r : Response) : Except Fault Json :=
  (Json.read r.body).mapError fun e => .json e.message

def int64 (r : Response) : Except Fault Int := (Json.readInt64 r.body).mapError .json

def details (r : Response) : Except Fault (List Json) := do
  let body ← json r
  match body.get? "detail" with
  | some (.array details) => return details
  | _ =>
    let emptied := match body with
      | .object members => Json.object (members.map fun (key, v) =>
          (key, if key = "detail" then .null else v))
      | v => v
    .error (.body ("Not an error envelope: " ++ emptied.render))

/-- What a path of keys and indexes between points leads to. -/
def follow (v : Json) : List String → Option Json
  | [] => some v
  | part :: path =>
    let next := match Text.uint64? part with
      | some index => v.items?.bind fun items => items[index]?
      | none => v.get? part
    next.bind fun v => follow v path

def hasStatus (status : Status) (r : Response) : Bool := r.status == status

def hasHeader (name value : String) (r : Response) : Bool := r.headers.text? name == some value

def hasContentType (start : String) (r : Response) : Bool :=
  r.contentType?.any fun given => start.toList.isPrefixOf given.toList

def hasJson (expected : Json) (r : Response) : Bool := (json r).toOption.any (·.same expected)

def hasJsonAt (path : String) (expected : Json) (r : Response) : Bool :=
  let parts := (Text.split '.' path).filter (!·.isEmpty)
  ((json r).toOption.bind fun v => follow v parts).any (·.same expected)

def hasError (message kind : String) (r : Response) : Bool :=
  match details r with
  | .ok (first :: _) =>
    first.get? "msg" == some (.string message) && first.get? "type" == some (.string kind)
  | _ => false

end Accord.Trial.Reply
