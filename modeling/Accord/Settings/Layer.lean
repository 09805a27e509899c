import Accord.Settings.Form

namespace Accord

namespace Json

mutual

/-- Objects are merged member by member; anything else is replaced. -/
def merge (base : Json) : Json → Json
  | object layer =>
    match base with
    | object members => object (mergeMembers members layer)
    | _ => object layer
  | v => v
termination_by structural layer => layer

def mergeMembers (members : List (String × Json)) : List (String × Json) → List (String × Json)
  | [] => members
  | (key, v) :: rest =>
    let merged := match members.lookup key with
      | some known => merge known v
      | none => v
    mergeMembers (insertMember key merged members) rest
termination_by structural layer => layer

end

end Json

namespace Settings

def withLayer (s : Settings) (layer : Json) : Except Fault Settings :=
  (ofJson (s.toJson.merge layer)).mapError Fault.malformed

end Settings

end Accord
