import Accord.Proofs.Component.Conditional
import Accord.Proofs.Contract.Described

namespace Accord

/-- The members of a mapping for contents of one essence, in order. -/
def Schema.membersFor (essence : String) (mapping : List (String × Schema)) : List Schema :=
  (mapping.filter fun e => (MediaType.read e.1).essence == essence).map Prod.snd

namespace Schema

variable {essence : String} {mapping : List (String × Schema)}

theorem membersFor_ne_nil (declared : ∃ e ∈ mapping, (MediaType.read e.1).essence = essence) :
    membersFor essence mapping ≠ [] := by
  obtain ⟨e, he, hessence⟩ := declared
  refine List.ne_nil_of_mem (List.mem_map_of_mem (a := e) (List.mem_filter.mpr ⟨he, ?_⟩))
  exact beq_iff_eq.mpr hessence

theorem membersFor_eq_singleton {e : String × Schema}
    (distinct : (mapping.map fun e => (MediaType.read e.1).essence).Nodup) (he : e ∈ mapping) :
    membersFor (MediaType.read e.1).essence mapping = [e.2] := by
  obtain ⟨before, after, rfl⟩ := List.append_of_mem he
  rw [List.map_append, List.map_cons, List.nodup_middle, List.nodup_cons, List.mem_append, not_or]
    at distinct
  have hown : (e :: after).filter
        (fun o => (MediaType.read o.1).essence == (MediaType.read e.1).essence) =
      e :: after.filter fun o => (MediaType.read o.1).essence == (MediaType.read e.1).essence :=
    List.filter_cons_of_pos (beq_iff_eq.mpr rfl)
  have hother : ∀ others : List (String × Schema),
      (MediaType.read e.1).essence ∉ others.map (fun e => (MediaType.read e.1).essence) →
        others.filter (fun o => (MediaType.read o.1).essence == (MediaType.read e.1).essence) = [] := by
    intro others hothers
    refine List.filter_eq_nil_iff.mpr fun o ho hsame => hothers ?_
    exact List.mem_map.mpr ⟨o, ho, beq_iff_eq.mp hsame⟩
  rw [membersFor, List.filter_append, hown, hother before distinct.1.1, hother after distinct.1.2]
  rfl

end Schema

namespace ComponentSpec

theorem conditionalModel?_bodyOf_eq (essence : String) (mapping : List (String × Schema))
    (rest : List Schema) :
    (bodyOf (.conditional mapping) rest).conditionalModel? essence =
      (Schema.membersFor essence mapping).getLast? := by
  have htypes : (bodyOf (.conditional mapping) rest).conditionalTypes = mapping := rfl
  rw [conditionalModel?, htypes, ← List.head?_filter, List.filter_reverse, List.head?_reverse,
    Schema.membersFor, List.getLast?_map]

end ComponentSpec

theorem ResponseCheck.modelFor_conditional_eq_ok_iff {mapping : List (String × Schema)}
    {contentType : String} {model : Schema} :
    modelFor (.conditional mapping) contentType = .ok model ↔
      (Schema.membersFor (MediaType.read contentType).essence mapping).head? = some model := by
  rw [modelFor_eq_ok_iff, Schema.membersFor, List.head?_map, List.head?_filter,
    Option.map_eq_some_iff]
  constructor
  · rintro (hnone | ⟨hmember, hown, hfirst⟩)
    · cases hnone
    · cases hmember
      refine ⟨(_, model), List.find?_eq_some_iff_append.mpr ⟨beq_iff_eq.mpr hown, _, _, rfl, ?_⟩, rfl⟩
      intro e he
      rw [beq_eq_false_iff_ne.mpr (hfirst e he)]
      rfl
  · rintro ⟨⟨key, model⟩, hfound, rfl⟩
    obtain ⟨hown, before, after, hmapping, hfirst⟩ := List.find?_eq_some_iff_append.mp hfound
    refine .member (congrArg some hmapping) (beq_iff_eq.mp hown) fun e he hsame => ?_
    have hdiffers := hfirst e he
    rw [hsame, beq_self_eq_true] at hdiffers
    cases hdiffers

namespace RequestModel

/-- The member for a body in a request is the member for a body in a response exactly where the last and the
first that are declared for the content type are the same, and so wherever no essence is declared twice. -/
theorem selected_alike_iff (blueprint : String) (strict : Option Bool)
    (before after : List ComponentSpec) (mapping : List (String × Schema)) (rest : List Schema)
    (contentType : String) (r : Request)
    (others : ∀ other ∈ before ++ after, other.contextName ≠ Component.body.contextName)
    (declared : ∃ e ∈ mapping, (MediaType.read e.1).essence = (MediaType.read contentType).essence)
    (content : r.contentType? = some (MediaType.read contentType).essence) :
    ∃ name fields asked given,
      (ofSpecs blueprint (before ++ .bodyOf (.conditional mapping) rest :: after) strict).modelFor
          r.contentType? = combined name fields ∧
        fields.lookup Component.body.contextName = some asked ∧
        ResponseCheck.modelFor (.conditional mapping) contentType = .ok given ∧
        (asked = given ↔
          (Schema.membersFor (MediaType.read contentType).essence mapping).getLast? =
            (Schema.membersFor (MediaType.read contentType).essence mapping).head?) ∧
        ((mapping.map fun e => (MediaType.read e.1).essence).Nodup → asked = given) := by
  have hmembers := Schema.membersFor_ne_nil declared
  obtain ⟨name, hmodel⟩ := modelFor_some blueprint
    (before ++ .bodyOf (.conditional mapping) rest :: after) strict
    (MediaType.read contentType).essence
  rw [MediaType.essence_read_essence] at hmodel
  have hothers : ∀ other ∈ before ++ after,
      other.contextName ≠ (ComponentSpec.bodyOf (.conditional mapping) rest).contextName := others
  have hasked : (fieldsAt (MediaType.read contentType).essence
      (before ++ .bodyOf (.conditional mapping) rest :: after)).lookup Component.body.contextName =
      some (((ComponentSpec.bodyOf (.conditional mapping) rest).conditionalModel?
        (MediaType.read contentType).essence).getD (.conditional mapping)) :=
    lookup_fieldsAt_self hothers
  rw [ComponentSpec.conditionalModel?_bodyOf_eq, List.getLast?_eq_some_getLast hmembers,
    Option.getD_some] at hasked
  have hgiven := ResponseCheck.modelFor_conditional_eq_ok_iff.mpr (List.head?_eq_some_head hmembers)
  refine ⟨name, _, _, _, content ▸ hmodel, hasked, hgiven, ?_, fun distinct => ?_⟩
  · rw [List.getLast?_eq_some_getLast hmembers, List.head?_eq_some_head hmembers, Option.some.injEq]
  · obtain ⟨e, he, hessence⟩ := declared
    have hsingle := Schema.membersFor_eq_singleton distinct he
    rw [hessence] at hsingle
    simp only [hsingle, List.getLast_singleton, List.head_cons]

def notePart : Request where
  method := "POST"
  uri := .root
  headers := ⟨[("content-type", Text.utf8 "multipart/form-data; boundary=x")]⟩
  body := []

theorem note_in_parts_selected_alike :
    ∃ name fields model,
      (ofSpecs "Notes" [.bodyOf (.conditional noteMapping) []] none).modelFor notePart.contentType? =
          combined name fields ∧
        fields.lookup Component.body.contextName = some model ∧
        ResponseCheck.modelFor (.conditional noteMapping) "Multipart/Form-Data; charset=utf-8" =
          .ok model := by
  obtain ⟨name, fields, asked, given, hmodel, hasked, hgiven, -, hsame⟩ :=
    selected_alike_iff "Notes" none [] [] noteMapping [] "Multipart/Form-Data; charset=utf-8" notePart
      (by simp) ⟨_, List.mem_cons_of_mem _ List.mem_cons_self, by decide +kernel⟩
      (by decide +kernel)
  rw [← hsame (by decide +kernel)] at hgiven
  exact ⟨name, fields, asked, hmodel, hasked, hgiven⟩

def versions : List (String × Schema) :=
  [("application/json", .plainInteger), ("application/json; v=2", .plainString)]

def jsonNote : Request where
  method := "POST"
  uri := .root
  headers := ⟨[("content-type", Text.utf8 "application/json")]⟩
  body := Text.utf8 "\"note\""

/-- Of a content type that is declared twice, a request has to hold the second member and a response the
first one: a text is taken from the request and refused in the response. -/
theorem repeated_type_selected_apart :
    (¬∀ (mapping : List (String × Schema)) (contentType : String),
      (∃ e ∈ mapping, (MediaType.read e.1).essence = (MediaType.read contentType).essence) →
        ∀ name fields model,
          (ofSpecs "Notes" [.bodyOf (.conditional mapping) []] none).modelFor
              (some (MediaType.read contentType).essence) = combined name fields →
            fields.lookup Component.body.contextName = some model →
              ResponseCheck.modelFor (.conditional mapping) contentType = .ok model) ∧
    (((ofSpecs "Notes" [.bodyOf (.conditional versions) []] none).parse
        [("application/json", .json)] .json jsonNote).run.run {}).1 =
      .ok ⟨[("parsed_body", .string "note")]⟩ ∧
    ∀ (m : Type → Type) (c : ResponseCheck m), c.serializer = .json →
      c.checkBody { returnType := .conditional versions, status := .ok } "application/json"
        (.string "note") ≠ .ok () := by
  have hfirst : ResponseCheck.modelFor (.conditional versions) "application/json" =
      .ok .plainInteger := by
    with_unfolding_all rfl
  refine ⟨fun hclaim => ?_, ?_, fun m c hjson haccepted => ?_⟩
  · have hmodel : (ofSpecs "Notes" [.bodyOf (.conditional versions) []] none).modelFor
        (some (MediaType.read "application/json").essence) =
          combined "_Notes@ContextModel#application/json" [("parsed_body", .plainString)] := by
      with_unfolding_all rfl
    have hresponse := hclaim versions "application/json" ⟨_, List.mem_cons_self, rfl⟩ _ _ _ hmodel rfl
    cases hfirst.symm.trans hresponse
  · with_unfolding_all rfl
  · obtain ⟨-, model, normal, hmodel, hnormal⟩ := ResponseCheck.checkBody_eq_ok_iff.mp haccepted
    cases hfirst.symm.trans (ResponseCheck.modelFor_eq_ok_iff.mpr hmodel)
    have hrefused : ∀ strict, ∃ details,
        Schema.plainInteger.validate (.string "note") (some strict) = .error details := by
      intro strict
      cases strict <;> exact ⟨_, by with_unfolding_all rfl⟩
    obtain ⟨details, hdetails⟩ := hrefused c.strict
    rw [hjson] at hnormal
    cases hdetails.symm.trans hnormal

end RequestModel

end Accord
