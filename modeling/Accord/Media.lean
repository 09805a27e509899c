import Accord.Text.Number
import Accord.Text.Order
import Accord.Text.Split
import Accord.Text.Case

namespace Accord

structure MediaType where
  main : String
  sub : String
  params : Named String
  deriving DecidableEq, Repr, Inhabited

namespace MediaType

def readParam (part : List Char) : Option (String × String) := do
  let (key, value) ← Text.cutChars '=' part
  let key := (Text.trimChars key).map Char.toLower
  guard (!key.isEmpty)
  let value := Text.trimChars value
  let value := match value with
    | '"' :: rest => if rest.getLast? = some '"' then rest.dropLast else value
    | _ => value
  return (String.ofList key, String.ofList value)

def read (raw : String) : MediaType :=
  match Text.splitChars ';' raw.toList with
  | [] => ⟨"", "", []⟩
  | full :: parts =>
    let full := (Text.trimChars full).map Char.toLower
    let (main, sub) := match Text.cutChars '/' full with
      | some (main, sub) => (Text.trimChars main, Text.trimChars sub)
      | none => (full, [])
    ⟨String.ofList main, String.ofList sub, Named.ofList (parts.filterMap readParam)⟩

def essence (m : MediaType) : String := m.main ++ "/" ++ m.sub

def isAny (m : MediaType) : Bool := m.main == "*" && m.sub == "*"

/-- The value of `q` if that is a number from zero to one, else one. -/
def quality (m : MediaType) : Binary64 :=
  match (m.params.lookup "q").bind Text.binary64? with
  | some q => if Binary64.zero ≤ q ∧ q ≤ Binary64.one then q else Binary64.one
  | none => Binary64.one

def rangeParams (m : MediaType) : Named String := m.params.filter fun (key, _) => key != "q"

def specificity (m : MediaType) : Nat :=
  if m.main = "*" then 0
  else if m.sub = "*" then 1
  else if m.rangeParams.isEmpty then 2
  else 3

def sameParams (ps qs : Named String) : Bool :=
  ps.length == qs.length && ps.all fun (key, value) => qs.lookup key == some value

def same (m n : MediaType) : Bool :=
  m.main == n.main && m.sub == n.sub && sameParams m.params n.params

def compatible (a b : String) : Bool := a == b || a == "*" || b == "*"

/-- Whether a type falls into a range. Only a range without parameters admits other parameters than
its own. -/
def fits (m range : MediaType) : Bool :=
  if m.main.isEmpty || range.main.isEmpty || m.sub.isEmpty || range.sub.isEmpty then false
  else if !(compatible m.main range.main && compatible m.sub range.sub) then false
  else
    let mine := m.rangeParams
    let theirs := range.rangeParams
    if mine.isEmpty == theirs.isEmpty then sameParams mine theirs else !mine.isEmpty

def fitsText (m : MediaType) (range : String) : Bool := !range.isEmpty && m.fits (read range)

def text (m : MediaType) : String :=
  m.essence ++ String.join (m.params.map fun (key, value) => "; " ++ key ++ "=" ++ value)

/-- Whether `m` may stand before `n`: it is more specific, or as specific and not less wanted. -/
def precedes (m n : MediaType) : Bool :=
  n.specificity < m.specificity ||
    (m.specificity == n.specificity && decide (n.quality ≤ m.quality))

/-- The types that are wanted at all, by precedence; equal ones keep their order. -/
def byPrecedence (types : List String) : List MediaType :=
  ((types.map read).filter fun m => decide (Binary64.zero < m.quality)).mergeSort precedes

def readAccept (header : String) : List MediaType :=
  byPrecedence ((Text.split ',' header).filter fun entry => !(Text.trim entry).isEmpty)

def preferred? (accepted : List MediaType) (candidates : List String) : Option String :=
  accepted.findSome? fun range => candidates.find? fun c => (read c).fits range

end MediaType

end Accord
