import Accord.Body.ContentType
import Accord.Text.Charset
import Accord.Text.Order
import Accord.Text.Quoted

namespace Accord.Multipart

inductive Fault where
  | noContentType
  | otherContentType
  | noBoundary
  | incomplete
  | badHeaders
  | incompleteData (name : Option String)
  | tooManyParts (limit : Nat)
  deriving DecidableEq, Repr

def Fault.message : Fault → String
  | noContentType => "failed to decode Content-Type"
  | otherContentType => "Content-Type is not multipart/form-data"
  | noBoundary => "multipart boundary not found in Content-Type"
  | incomplete => "incomplete multipart stream"
  | badHeaders => "failed to read headers"
  | incompleteData name =>
    "field " ++ Text.quoted (name.getD "<unknown>") ++ " received with incomplete data"
  | tooManyParts limit => "Too many fields, limit " ++ toString limit

def indexOf? (pattern : Bytes) (before : Nat) : Bytes → Option Nat
  | [] => if pattern.isEmpty then some before else none
  | b :: rest =>
    if pattern.isPrefixOf (b :: rest) then some before else indexOf? pattern (before + 1) rest

def cutAt? (pattern : Bytes) (bytes : Bytes) : Option (Bytes × Bytes) :=
  (indexOf? pattern 0 bytes).map fun n => (bytes.take n, bytes.drop (n + pattern.length))

theorem length_of_cutAt? {pattern bytes before behind : Bytes}
    (h : cutAt? pattern bytes = some (before, behind)) : behind.length ≤ bytes.length := by
  obtain ⟨n, _, hn⟩ := Option.map_eq_some_iff.mp h
  simp only [Prod.mk.injEq] at hn
  obtain ⟨_, rfl⟩ := hn
  simp

def isBlank (b : UInt8) : Bool := b == 32 || b == 9

def isTokenByte (b : UInt8) : Bool := Message.isTokenChar (Char.ofNat b.toNat)

def dropEndBlanks (bytes : Bytes) : Bytes := (bytes.reverse.dropWhile isBlank).reverse

def headerLimit : Nat := 32

/-- Reads at most `limit` headers up to an empty line; of equal names the last counts. -/
def readHeaders (limit : Nat) (headers : Named Bytes) (bytes : Bytes) : Option (Named Bytes) :=
  match limit, bytes with
  | _, 13 :: 10 :: _ => some headers
  | _, 10 :: _ => some headers
  | 0, _ => none
  | limit + 1, _ =>
    let name := bytes.takeWhile isTokenByte
    match bytes.dropWhile isTokenByte with
    | 58 :: rest =>
      if name.isEmpty then none
      else
        let rest := rest.dropWhile isBlank
        let value := dropEndBlanks (rest.takeWhile Message.isValueByte)
        let name := String.ofList (name.map fun b => (Char.ofNat b.toNat).toLower)
        let headers := Named.put name value headers
        match rest.dropWhile Message.isValueByte with
        | 13 :: 10 :: rest => readHeaders limit headers rest
        | 10 :: rest => readHeaders limit headers rest
        | _ => none
    | _ => none

def isSpacing (b : UInt8) : Bool := b == 32 || b == 9 || b == 10 || b == 12 || b == 13

/-- What stands up to the next quote that no backslash precedes. -/
def takeQuoted (acc : Bytes) : Bytes → Option Bytes
  | [] => none
  | 92 :: 34 :: rest => takeQuoted (34 :: acc) rest
  | 34 :: _ => some acc.reverse
  | b :: rest => takeQuoted (b :: acc) rest

/-- The value behind an attribute's name: an equals sign, then a text in quotes, or all up to a blank
or a semicolon. -/
def attributeValue? (behind : Bytes) : Option Bytes :=
  match behind.dropWhile isSpacing with
  | 61 :: rest =>
    match rest.dropWhile isSpacing with
    | 34 :: rest => takeQuoted [] rest
    | rest => some (rest.takeWhile fun b => b != 59 && b != 32)
  | _ => none

/-- The value of the first attribute of this name, which stands at the start, behind white space or
behind a semicolon. -/
def findAttribute? (fuel : Nat) (name : Bytes) (bytes : Bytes) : Option String :=
  match fuel with
  | 0 => none
  | fuel + 1 =>
    (cutAt? name bytes).bind fun (before, behind) =>
      if before.getLast?.all fun b => isSpacing b || b == 59 then
        (attributeValue? behind).bind Text.ofUtf8?
      else findAttribute? fuel name behind

structure PartInfo where
  name : Option String
  filename : Option String
  contentType : Option ContentType
  deriving DecidableEq, Repr, Inhabited

def PartInfo.ofHeaders (headers : Named Bytes) : PartInfo :=
  let given := fun (name : String) =>
    (headers.lookup "content-disposition").bind fun value =>
      findAttribute? (value.length + 1) (Text.utf8 name) value
  { name := given "name"
    filename := given "filename"
    contentType := ((headers.lookup "content-type").bind Message.visibleText?).bind ContentType.read? }

structure Part where
  info : PartInfo
  data : Bytes
  deriving DecidableEq, Repr, Inhabited

namespace Part

def contentType (p : Part) : ContentType := p.info.contentType.getD .octets

def text (p : Part) : String :=
  let label := (p.info.contentType.bind (·.param? "charset")).getD "utf-8"
  ((Text.Charset.ofLabel? label).getD .utf8).decode p.data

end Part

def newline : Bytes := [13, 10]

def dashes : Bytes := [45, 45]

/-- The rest of a delimiter line behind the boundary: blanks and a line break. -/
def endLine? (bytes : Bytes) : Option Bytes :=
  match bytes.dropWhile isBlank with
  | 13 :: 10 :: rest => some rest
  | _ => none

theorem length_of_endLine? {bytes rest : Bytes} (h : endLine? bytes = some rest) :
    rest.length < bytes.length := by
  unfold endLine? at h
  split at h
  next hd =>
    have := (List.dropWhile_suffix isBlank (l := bytes)).length_le
    simp only [Option.some.injEq] at h
    subst h
    rw [hd] at this
    simp only [List.length_cons] at this
    omega
  next => simp at h

def partsAfter (boundary : Bytes) (limit : Nat) (parts : List Part) (bytes : Bytes) :
    Except Fault (List Part) :=
  if bytes.length < 2 then .error .incomplete
  else if dashes.isPrefixOf bytes then .ok parts
  else match _hl : endLine? bytes with
  | none => .error .incomplete
  | some rest =>
    match _hh : cutAt? (newline ++ newline) rest with
    | none => .error .incomplete
    | some (block, rest) =>
      match readHeaders headerLimit [] (block ++ newline ++ newline) with
      | none => .error .badHeaders
      | some headers =>
        let info := PartInfo.ofHeaders headers
        if limit ≤ parts.length then .error (.tooManyParts limit)
        else match _hd : cutAt? (newline ++ dashes ++ boundary) rest with
        | none => .error (.incompleteData info.name)
        | some (data, rest) => partsAfter boundary limit (parts ++ [⟨info, data⟩]) rest
termination_by bytes.length
decreasing_by
  have h1 := length_of_endLine? ‹endLine? _ = some _›
  have h2 := length_of_cutAt? ‹cutAt? (newline ++ newline) _ = some _›
  have h3 := length_of_cutAt? ‹cutAt? (newline ++ dashes ++ boundary) _ = some _›
  omega

def readParts (boundary : Bytes) (limit : Nat) (body : Bytes) : Except Fault (List Part) :=
  match cutAt? (dashes ++ boundary) body with
  | none => .error .incomplete
  | some (_, rest) => partsAfter boundary limit [] rest

def boundaryOf (header : String) : Except Fault String :=
  match ContentType.read? header with
  | none => .error .noContentType
  | some c =>
    if c.main = "multipart" ∧ c.kind = "form-data" then
      match c.param? "boundary" with
      | some boundary => .ok boundary
      | none => .error .noBoundary
    else .error .otherContentType

end Accord.Multipart
