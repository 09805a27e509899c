import Accord.Body.Multipart
import Accord.Message.Request
import Accord.Slot

namespace Accord

structure UploadedFile where
  filename : String
  contentType : String
  charset : Option String
  data : Bytes
  deriving DecidableEq, Repr, Inhabited

def UploadedFile.describe (field : String) (f : UploadedFile) : Json :=
  Json.ofMembers [("name", .string field), ("filename", .string f.filename),
    ("content_type", .string f.contentType), ("charset", Json.ofOption .string f.charset),
    ("size", Json.ofNat f.data.length)]

structure Form where
  fields : List (String × String) := []
  files : List (String × UploadedFile) := []
  deriving DecidableEq, Repr, Inhabited

namespace Form

def field? (p : Multipart.Part) : Option (String × String) :=
  match p.info.filename with
  | none => some (p.info.name.getD "", p.text)
  | some _ => none

def file? (p : Multipart.Part) : Option (String × UploadedFile) :=
  p.info.filename.map fun filename =>
    (p.info.name.getD "", {
      filename := filename
      contentType := p.contentType.essence
      charset := p.contentType.param? "charset"
      data := p.data })

def ofParts (parts : List Multipart.Part) : Form := ⟨parts.filterMap field?, parts.filterMap file?⟩

end Form

/-- How forms with files are read: which methods besides `POST` carry them, and their limits. -/
structure FormRules where
  alsoPosted : List String := ["DELETE", "PATCH", "PUT"]
  maxBytes : Nat := 50 * 1024 * 1024
  maxParts : Nat := 100
  deriving DecidableEq, Repr, Inhabited

namespace FormRules

def methods (names : List String) : List String := Text.sortedSet (names.map Text.asciiUpper)

def carriesForm (alsoPosted : List String) (method : String) : Bool :=
  method == "POST" || alsoPosted.contains method

def readForm (rules : FormRules) (r : Request) : Except Failure Form :=
  if !carriesForm rules.alsoPosted r.method then .ok {}
  else if rules.maxBytes < r.body.length then
    .error (.unsupported ("Multipart body is too large: " ++ toString r.body.length ++
      " bytes, limit " ++ toString rules.maxBytes))
  else
    let parts := do
      let boundary ← Multipart.boundaryOf ((r.header? "content-type").getD "")
      Multipart.readParts (Text.utf8 boundary) rules.maxParts r.body
    match parts with
    | .ok parts => .ok (Form.ofParts parts)
    | .error fault => .error (.unsupported fault.message)

end FormRules

abbrev FormState := StateT (Slot Form) (Except Failure)

def FormRules.form (rules : FormRules) (r : Request) : FormState Form := do
  match ← get with
  | some form => return form
  | none =>
    let form ← rules.readForm r
    modifyGet (Slot.hold form)

end Accord
