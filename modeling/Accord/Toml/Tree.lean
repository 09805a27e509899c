import Accord.Json.Basic
import Accord.Text.Order

namespace Accord.Toml

inductive Origin where
  | header
  | dotted
  | passage
  deriving DecidableEq, Repr

inductive Tree where
  | value (v : Json)
  | table (origin : Origin) (entries : List (String × Tree))
  /-- The tables of a list, the last one first. -/
  | rows (tables : List (List (String × Tree)))

abbrev Entries := List (String × Tree)

mutual

def Tree.toJson : Tree → Json
  | .value v => v
  | .table _ entries => .object (Json.sortMembers (entriesToJson entries))
  | .rows tables => .array (rowsToJson tables).reverse
termination_by structural t => t

def entriesToJson : List (String × Tree) → List (String × Json)
  | [] => []
  | (key, t) :: rest => (key, t.toJson) :: entriesToJson rest
termination_by structural entries => entries

def rowsToJson : List (List (String × Tree)) → List Json
  | [] => []
  | entries :: rest => .object (Json.sortMembers (entriesToJson entries)) :: rowsToJson rest
termination_by structural tables => tables

end

/-- Changes the table at the end of a path. Tables that are missing are made; of a list of tables the
last one counts. Dotted keys do not lead through tables with a header. -/
def editAt (dotted : Bool) (edit : Origin → Entries → Option Entries) (origin : Origin)
    (entries : Entries) : List String → Option Entries
  | [] => edit origin entries
  | key :: path =>
    match entries.lookup key with
    | none =>
      let made := if dotted then Origin.dotted else .passage
      (editAt dotted edit made [] path).map fun inner => Named.put key (.table made inner) entries
    | some (.table found inner) =>
      if dotted ∧ found = .header then none
      else (editAt dotted edit found inner path).map fun inner =>
        Named.put key (.table found inner) entries
    | some (.rows (row :: older)) =>
      (editAt dotted edit .header row path).map fun row =>
        Named.put key (.rows (row :: older)) entries
    | some _ => none

def addValue (path : List String) (key : String) (v : Json) (origin : Origin) (entries : Entries) :
    Option Entries :=
  editAt true (fun origin entries =>
    if (origin = .dotted ↔ path = []) ∨ Named.has key entries then none
    else some (entries ++ [(key, .value v)])) origin entries path

def addValueAt (table path : List String) (key : String) (v : Json) (entries : Entries) :
    Option Entries :=
  editAt false (addValue path key v) .header entries table

def defineTable (path : List String) (key : String) (entries : Entries) : Option Entries :=
  editAt false (fun _ entries =>
    match entries.lookup key with
    | none => some (entries ++ [(key, .table .header [])])
    | some (.table .passage inner) => some (Named.put key (.table .header inner) entries)
    | some _ => none) .header entries path

def defineRow (path : List String) (key : String) (entries : Entries) : Option Entries :=
  editAt false (fun _ entries =>
    match entries.lookup key with
    | none => some (entries ++ [(key, .rows [[]])])
    | some (.rows tables) => some (Named.put key (.rows ([] :: tables)) entries)
    | some _ => none) .header entries path

end Accord.Toml
