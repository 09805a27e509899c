namespace Accord

namespace Text

def insertSorted (s : String) : List String → List String
  | [] => [s]
  | t :: rest =>
    if s = t then t :: rest
    else if s < t then s :: t :: rest
    else t :: insertSorted s rest

def sortedSet (texts : List String) : List String :=
  texts.foldl (fun sorted s => insertSorted s sorted) []

def showList (texts : List String) : String :=
  "[" ++ ", ".intercalate (texts.map fun s => "'" ++ s ++ "'") ++ "]"

end Text

/-- Named things in the order in which the names first came. -/
abbrev Named (α : Type) := List (String × α)

namespace Named

variable {α : Type}

def put (name : String) (value : α) : Named α → Named α
  | [] => [(name, value)]
  | (k, v) :: rest =>
    if k = name then (k, value) :: rest else (k, v) :: put name value rest

def ofList (entries : List (String × α)) : Named α :=
  entries.foldl (fun named (name, value) => put name value named) []

def names (named : Named α) : List String := named.map Prod.fst

def values (named : Named α) : List α := named.map Prod.snd

def has (name : String) (named : Named α) : Bool := named.any fun (k, _) => k == name

end Named

end Accord
