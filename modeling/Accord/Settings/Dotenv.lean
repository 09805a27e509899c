import Accord.Text.Category
import Accord.Settings.Environment

namespace Accord.Dotenv

inductive Place where
  | plain
  | escape
  | strong
  | strongEscape
  | weak
  | weakEscape
  | blank
  deriving DecidableEq, Repr

def plainPlace (c : Char) : Place :=
  if c = '\\' then .escape
  else if c = '"' then .weak
  else if c = '\'' then .strong
  else .plain

def nextPlace (place : Place) (c : Char) : Place :=
  match place with
  | .plain => if Text.isBlank c && c != '\n' && c != '\r' then .blank else plainPlace c
  | .blank => plainPlace c
  | .escape => .plain
  | .weak => if c = '\\' then .weakEscape else if c = '"' then .plain else .weak
  | .weakEscape => .weak
  | .strong => if c = '\\' then .strongEscape else if c = '\'' then .plain else .strong
  | .strongEscape => .strong

/-- A line without the comment behind a blank, and the place at its end; no place if there is a
comment. -/
def scanLine (place : Place) (acc : List Char) : List Char → List Char × Option Place
  | [] => (acc.reverse, some place)
  | c :: rest =>
    if place = .blank ∧ c = '#' then (acc.reverse, none)
    else scanLine (nextPlace place c) (c :: acc) rest

def startsComment (s : List Char) : Bool := (s.dropWhile Text.isBlank).head? == some '#'

def dropNewline (s : List Char) : List Char :=
  match s.reverse with
  | '\n' :: '\r' :: rest => rest.reverse
  | '\n' :: rest => rest.reverse
  | _ => s

def physicalLines (s : List Char) : List (List Char) :=
  let (line, lines) := s.foldr (fun c (line, lines) =>
    if c = '\n' then (['\n'], if line.isEmpty then lines else line :: lines)
    else (c :: line, lines)) (([] : List Char), ([] : List (List Char)))
  if line.isEmpty then lines else line :: lines

/-- Joins lines as long as quotes are open; `seen` is what is joined so far. -/
def logicalLines (place : Place) (seen : List Char) : List (List Char) → Option (List (List Char))
  | [] => if place = .plain then some [] else none
  | line :: rest =>
    let seen' := seen ++ line
    if startsComment seen' then (logicalLines .plain [] rest).map ([] :: ·)
    else match scanLine place [] line with
    | (kept, none) => (logicalLines .plain [] rest).map ((seen ++ kept) :: ·)
    | (_, some .plain) => (logicalLines .plain [] rest).map (dropNewline seen' :: ·)
    | (_, some place) => logicalLines place seen' rest

/-- What is being read of a reference to a variable. -/
inductive Reference where
  | bare
  | braced
  deriving DecidableEq, Repr

structure ValueState where
  strong : Bool := false
  weak : Bool := false
  escaped : Bool := false
  ended : Bool := false
  reference : Option Reference := none
  name : List Char := []
  value : List Char := []

def substitute (known : String → String) (s : ValueState) : ValueState :=
  { s with
    value := (known (String.ofList s.name.reverse)).toList.reverse ++ s.value
    name := []
    reference := none }

def push (c : Char) (s : ValueState) : ValueState := { s with value := c :: s.value }

def stepReference (known : String → String) (kind : Reference) (c : Char) (s : ValueState) :
    ValueState :=
  if Text.isAlphanumeric c then { s with name := c :: s.name }
  else match kind with
  | .bare =>
    if c = '\x7b' ∧ s.name.isEmpty then { s with reference := some .braced }
    else
      let s := substitute known s
      if c = '$' then { s with reference := some .bare } else push c s
  | .braced => if c = '\x7d' then substitute known s else { s with name := c :: s.name }

def stepValue (known : String → String) (c : Char) (s : ValueState) : Option ValueState :=
  if s.escaped then
    if c = 'n' then some { push '\n' s with escaped := false }
    else if ['\\', '\'', '"', '$', ' '].contains c then some { push c s with escaped := false }
    else none
  else if s.strong then
    some (if c = '\'' then { s with strong := false } else push c s)
  else match s.reference with
  | some kind => some (stepReference known kind c s)
  | none =>
    some <|
      if c = '$' then { s with reference := some .bare }
      else if c = '\\' then { s with escaped := true }
      else if s.weak then (if c = '"' then { s with weak := false } else push c s)
      else if c = '\'' then { s with strong := true }
      else if c = '"' then { s with weak := true }
      else if c = ' ' ∨ c = '\t' then { s with ended := true }
      else push c s

def endValue (known : String → String) (s : ValueState) : Option String :=
  if s.reference = some .braced ∨ s.strong ∨ s.weak then none
  else some (String.ofList (substitute known s).value.reverse)

def readValue (known : String → String) (s : ValueState) : List Char → Option String
  | [] => endValue known s
  | c :: rest =>
    if s.ended then
      if c = '#' then endValue known s
      else if c = ' ' ∨ c = '\t' then readValue known s rest
      else none
    else (stepValue known c s).bind fun s => readValue known s rest

def isKeyStart (c : Char) : Bool := c.isAlpha || c == '_'

def isKeyChar (c : Char) : Bool := c.isAlphanum || c == '_' || c == '.'

def readKey (s : List Char) : Option (String × List Char) :=
  if s.head?.any isKeyStart then
    some (String.ofList (s.takeWhile isKeyChar), (s.dropWhile isKeyChar).dropWhile Text.isBlank)
  else none

def readHead (s : List Char) : Option (String × List Char) :=
  (readKey s).bind fun
    | (key, '=' :: rest) => some (key, rest)
    | (key, rest) =>
      if key = "export" then
        (readKey rest).bind fun
          | (key, '=' :: rest) => some (key, rest)
          | _ => none
      else none

def readLine (known : String → String) (line : List Char) : Option (Option (String × String)) :=
  let s := (Text.dropEndWhile Text.isBlank line).dropWhile Text.isBlank
  if s.isEmpty || s.head? == some '#' then some none
  else (readHead s).bind fun (key, rest) =>
    let rest := rest.dropWhile Text.isBlank
    if rest.isEmpty || rest.head? == some '#' then some (some (key, ""))
    else (readValue known {} rest).map fun value => some (key, value)

/-- The value of a variable: that of the environment, else the one defined last. -/
def valueOf (e : Environment) (defined : Named String) (name : String) : String :=
  (e.text? name).getD ((defined.lookup name).getD "")

/-- Defines the variables of lines, those that are not defined. -/
def loadLines (e : Environment) (defined : Named String) : List (List Char) → Option Environment
  | [] => some e
  | line :: rest =>
    (readLine (valueOf e defined) line).bind fun
      | none => loadLines e defined rest
      | some (key, value) => loadLines (Environment.define key value e) (Named.put key value defined) rest

def load (e : Environment) (text : String) : Option Environment :=
  let s := match text.toList with
    | c :: rest => if c.toNat = 0xFEFF then rest else c :: rest
    | [] => []
  (logicalLines .plain [] (physicalLines s)).bind (loadLines e [])

end Accord.Dotenv
