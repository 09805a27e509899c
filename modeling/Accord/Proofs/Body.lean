import Accord.Body.Parser
import Accord.Body.Renderer
import Accord.Proofs.Json.Identity

namespace Accord

def bodyValue (body : Bytes) : Except String Json :=
  match Json.read body with
  | .ok v => .ok v
  | .error e => if body.isEmpty then .ok .null else .error e.message

theorem BodyParser.read_json (body : Bytes) (r : Request) (s : Schema) (form : Slot Form) :
    BodyParser.json.read body r s form =
      match bodyValue body with
      | .ok v => .ok (v, form)
      | .error message => .error (.unreadable message) := by
  have hread : BodyParser.json.read body r s =
      match Json.read body with
      | .ok v => pure v
      | .error e => if body.isEmpty then pure .null else throw (.unreadable e.message) := rfl
  rw [hread, bodyValue]
  cases Json.read body with
  | ok v => rfl
  | error e => cases body.isEmpty <;> rfl

theorem bodyValue_render {v : Json} (h : Json.read (Text.utf8 v.render) = .ok v) :
    bodyValue (Text.utf8 v.render) = .ok v := by
  rw [bodyValue, h]

theorem bodyValue_nil : bodyValue [] = .ok .null := by decide +kernel

theorem FormRules.readForm_of_parts {rules : FormRules} {r : Request} {boundary : String}
    {parts : List Multipart.Part} (carried : carriesForm rules.alsoPosted r.method = true)
    (small : r.body.length ≤ rules.maxBytes)
    (hboundary : Multipart.boundaryOf ((r.header? "content-type").getD "") = .ok boundary)
    (hparts : Multipart.readParts (Text.utf8 boundary) rules.maxParts r.body = .ok parts) :
    rules.readForm r = .ok (Form.ofParts parts) := by
  have hread : (do
      let boundary ← Multipart.boundaryOf ((r.header? "content-type").getD "")
      Multipart.readParts (Text.utf8 boundary) rules.maxParts r.body) = .ok parts := by
    rw [hboundary]
    exact hparts
  unfold readForm
  rw [carried, if_neg (by decide), if_neg (Nat.not_lt.mpr small), hread]

/-- The form that a request has while this one is kept: the one that is kept, else its own. -/
def FormRules.found (rules : FormRules) (r : Request) : Slot Form → Except Failure Form
  | some form => .ok form
  | none => rules.readForm r

theorem FormRules.run_form (rules : FormRules) (r : Request) (slot : Slot Form) :
    rules.form r slot = (rules.found r slot).map fun form => (form, some form) := by
  cases slot with
  | some form => rfl
  | none =>
    unfold FormRules.form
    rw [found]
    change (do let form ← (liftM (rules.readForm r) : FormState Form); modifyGet (Slot.hold form) :
      FormState Form) none = _
    cases rules.readForm r <;> rfl

theorem BodyParser.read_form (alsoPosted : List String) (body : Bytes) (r : Request) (s : Schema)
    (slot : Slot Form) : (BodyParser.form alsoPosted).read body r s slot =
      .ok (.object (Query.toMembers s.forceListKeys
        (if FormRules.carriesForm alsoPosted r.method then
          (Query.readPairs body).map fun (key, value) => (key, .string value)
        else [])), slot) := by
  have hread : (BodyParser.form alsoPosted).read body r s slot = .ok (.object
      (if FormRules.carriesForm alsoPosted r.method then
        Query.toMembers s.forceListKeys
          ((Query.readPairs body).map fun (key, value) => (key, .string value))
      else []), slot) := rfl
  rw [hread]
  cases FormRules.carriesForm alsoPosted r.method <;> rfl

theorem BodyParser.read_multipart (rules : FormRules) (body : Bytes) (r : Request) (s : Schema)
    (slot : Slot Form) : (BodyParser.multipart rules).read body r s slot =
      (rules.found r slot).map fun form =>
        (.object (Query.toMembers s.forceListKeys
          (form.fields.map fun (name, value) => (name, .string value))), some form) := by
  have hread : (BodyParser.multipart rules).read body r s slot =
      (rules.form r slot).bind fun (form, slot) =>
        .ok (.object (Query.toMembers s.forceListKeys
          (form.fields.map fun (name, value) => (name, .string value))), slot) := rfl
  rw [hread, FormRules.run_form]
  cases rules.found r slot <;> rfl

end Accord
