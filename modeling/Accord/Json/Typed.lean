import Accord.Json.Reader
import Accord.Text.Quoted

namespace Accord.Json

def describe : Json → String
  | null => "null"
  | bool b => "boolean `" ++ (if b then "true" else "false") ++ "`"
  | int n => "integer `" ++ toString n ++ "`"
  | float x => "floating point `" ++ Decimal.write Decimal.json x ++ "`"
  | string s => "string " ++ Text.quoted s
  | array _ => "sequence"
  | object _ => "map"

def mistyped (expected : String) (v : Json) : String :=
  "invalid type: " ++ v.describe ++ ", expected " ++ expected

/-- The integer of 64 bits that a text writes, or what is wrong with the text. A list or an object is
not read any further than its bracket. -/
def readInt64 (text : Bytes) : Except String Int := do
  let start := (Cursor.mk text 0).skipBlanks
  let at_ := fun (offset : Nat) (message : String) =>
    let (line, column) := locate (text.take offset)
    message ++ " at line " ++ toString line ++ " column " ++ toString column
  match start.peek? with
  | some 91 => .error (at_ start.offset (mistyped "i64" (.array [])))
  | some 123 => .error (at_ start.offset (mistyped "i64" (.object [])))
  | _ =>
    let (v, c) ← (readValue 1 1 start).mapError fun f => (f.inText text).message
    match v, v.int64? with
    | _, some n =>
      let c := c.skipBlanks
      if c.rest.isEmpty then .ok n
      else .error (FaultAt.inText text ⟨.trailingCharacters, c.offset + 1⟩).message
    | .int _, none => .error (at_ c.offset ("invalid value: " ++ v.describe ++ ", expected i64"))
    | _, none => .error (at_ c.offset (mistyped "i64" v))

end Accord.Json
