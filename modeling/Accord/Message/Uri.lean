import Accord.Text.Split
import Accord.Text.Utf8

namespace Accord

structure Uri where
  scheme : Option String
  authority : String
  written : String
  query : Option String
  deriving DecidableEq, Repr, Inhabited

namespace Uri

inductive Fault where
  | invalidChar
  | invalidAuthority
  | invalidFormat
  | tooLong
  | empty
  | schemeTooLong
  deriving DecidableEq, Repr

def Fault.message : Fault → String
  | invalidChar => "invalid uri character"
  | invalidAuthority => "invalid authority"
  | invalidFormat => "invalid format"
  | tooLong => "uri too long"
  | empty => "empty string"
  | schemeTooLong => "scheme too long"

def root : Uri := ⟨none, "", "/", none⟩

/-- A URI of a scheme or a path shows a path always. -/
def path (u : Uri) : String :=
  if u.written.isEmpty then (if u.scheme.isSome || u.query.isSome then "/" else "") else u.written

def text (u : Uri) : String :=
  (match u.scheme with
  | some s => s ++ "://"
  | none => "") ++ u.authority ++ u.path ++
  (match u.query with
  | some q => "?" ++ q
  | none => "")

def isPathChar (c : Char) : Bool :=
  let n := c.toNat
  n == 0x21 || (0x24 ≤ n && n ≤ 0x3B) || n == 0x3D || (0x40 ≤ n && n ≤ 0x5F) ||
    (0x61 ≤ n && n ≤ 0x7F) || n == 0x22 || 0x7F < n

def isQueryChar (c : Char) : Bool :=
  let n := c.toNat
  n == 0x21 || (0x24 ≤ n && n ≤ 0x3B) || n == 0x3D || 0x3F ≤ n

def readPath (s : List Char) : Except Fault (String × Option String) :=
  let isPathEnd := fun (c : Char) => c == '?' || c == '#'
  let path := s.takeWhile (!isPathEnd ·)
  if !path.all isPathChar then .error .invalidChar
  else match s.dropWhile (!isPathEnd ·) with
    | '?' :: rest =>
      let query := rest.takeWhile (· != '#')
      if query.all isQueryChar then .ok (String.ofList path, some (String.ofList query))
      else .error .invalidChar
    | _ => .ok (String.ofList path, none)

structure AuthorityScan where
  colons : Nat
  opened : Bool
  closed : Bool
  percent : Bool
  atLast : Bool

def isAuthorityChar (c : Char) : Bool :=
  c.isAlphanum || "!$&'()*+,-.;=_~".toList.contains c

def scanAuthority (a : AuthorityScan) : List Char → Except Fault AuthorityScan
  | [] => .ok a
  | c :: rest =>
    if c = ':' then
      if 8 ≤ a.colons then .error .invalidAuthority
      else scanAuthority { a with colons := a.colons + 1, atLast := false } rest
    else if c = '[' then
      if a.percent || a.opened then .error .invalidAuthority
      else scanAuthority { a with opened := true, atLast := false } rest
    else if c = ']' then
      if !a.opened || a.closed then .error .invalidAuthority
      else scanAuthority
        { a with closed := true, colons := 0, percent := false, atLast := false } rest
    else if c = '@' then
      scanAuthority { a with colons := 0, percent := false, atLast := true } rest
    else if c = '%' then scanAuthority { a with percent := true, atLast := false } rest
    else if isAuthorityChar c then scanAuthority { a with atLast := false } rest
    else .error .invalidChar

def readAuthority (s : List Char) : Except Fault (List Char × List Char) := do
  let isEnd := fun (c : Char) => c == '/' || c == '?' || c == '#'
  let authority := s.takeWhile (!isEnd ·)
  let a ← scanAuthority ⟨0, false, false, false, false⟩ authority
  if a.opened != a.closed || 1 < a.colons || a.atLast || a.percent then
    .error .invalidAuthority
  else .ok (authority, s.dropWhile (!isEnd ·))

def isSchemeChar (c : Char) : Bool := c.isAlphanum || c == '+' || c == '-' || c == '.'

def readScheme (s : List Char) : Except Fault (Option String × List Char) :=
  let name := s.takeWhile isSchemeChar
  let lower := String.ofList (name.map Char.toLower)
  match s.dropWhile isSchemeChar with
  | ':' :: '/' :: '/' :: rest =>
    if lower = "http" ∨ lower = "https" then .ok (some lower, rest)
    else if s.length ≤ 3 then .ok (none, s)
    else if 64 < name.length then .error .schemeTooLong
    else .ok (some (String.ofList name), rest)
  | _ => .ok (none, s)

def read (text : String) : Except Fault Uri := do
  let s := text.toList
  if 65534 < text.utf8ByteSize then .error .tooLong
  else match s with
  | [] => .error .empty
  | ['*'] => .ok ⟨none, "", "*", none⟩
  | '/' :: _ =>
    let (path, query) ← readPath s
    .ok ⟨none, "", path, query⟩
  | _ =>
    let (scheme, rest) ← readScheme s
    let (authority, rest) ← readAuthority rest
    match scheme with
    | none =>
      if rest.isEmpty then .ok ⟨none, String.ofList authority, "", none⟩
      else if s.length = 1 then .error .invalidChar
      else .error .invalidFormat
    | some scheme =>
      if authority.isEmpty then .error .invalidFormat
      else
        let (path, query) ← readPath rest
        .ok ⟨some scheme, String.ofList authority, path, query⟩

end Uri

end Accord
