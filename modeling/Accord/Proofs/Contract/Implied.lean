import Accord.Proofs.Contract.Building
import Accord.Proofs.Contract.Specs
import Accord.Component.Extraction

namespace Accord

namespace ResponseSpecs

theorem has_iff {specs : ResponseSpecs} {status : Status} :
    specs.has status = true ↔ ∃ spec ∈ specs, spec.status = status := by
  rw [has, List.any_eq_true]
  exact exists_congr fun spec => and_congr_right fun _ => beq_iff_eq

theorem has_or_mem_missing (specs : ResponseSpecs) {implied : List ResponseSpec} {spec : ResponseSpec}
    (h : spec ∈ implied) :
    specs.has spec.status = true ∨ ∃ other ∈ specs.missing implied, other.status = spec.status := by
  induction implied generalizing specs with
  | nil => cases h
  | cons first rest ih =>
    unfold missing
    split
    · next hfirst =>
      rcases List.mem_cons.mp h with rfl | h
      · exact .inl hfirst
      · exact ih specs h
    · rcases List.mem_cons.mp h with rfl | h
      · exact .inr ⟨spec, List.mem_cons_self, rfl⟩
      · rcases ih (specs ++ [first]) h with hhas | ⟨other, hother, hstatus⟩
        · obtain ⟨known, hknown, hstatus⟩ := has_iff.mp hhas
          rcases List.mem_append.mp hknown with hknown | hknown
          · exact .inl (has_iff.mpr ⟨known, hknown, hstatus⟩)
          · obtain rfl := List.mem_singleton.mp hknown
            exact .inr ⟨known, List.mem_cons_self, hstatus⟩
        · exact .inr ⟨other, List.mem_cons_of_mem _ hother, hstatus⟩

end ResponseSpecs

namespace Contract

variable {m : Type → Type} {endpoint methodName : String} {payload : Payload m}
  {defaults : EndpointDefaults m} {components : List ComponentSpec} {c : Contract m}

namespace Built

variable (h : Built endpoint payload defaults components methodName c)

include h

theorem has_of_mem_impliedSpecs {spec : ResponseSpec} (himplied : spec ∈ c.impliedSpecs) :
    c.responses.has spec.status = true := by
  have hall : ∃ other ∈ c.allSpecs payload defaults, other.status = spec.status := by
    have hcases := ResponseSpecs.has_or_mem_missing
      (ResponseSpecs.ofList (c.declaredSpecs payload defaults)) himplied
    rcases hcases with hhas | ⟨other, hother, hstatus⟩
    · obtain ⟨other, hother, hstatus⟩ := ResponseSpecs.has_iff.mp hhas
      exact ⟨other, List.mem_append_left _ (ResponseSpecs.mem_of_mem_ofList hother), hstatus⟩
    · exact ⟨other, List.mem_append_right _ hother, hstatus⟩
  obtain ⟨other, hother, hstatus⟩ := hall
  obtain ⟨kept, -, hkept⟩ := ResponseSpecs.exists_find?_ofList hother
  rw [responses_of_checkSpecs h.responses, ← hstatus]
  exact ResponseSpecs.has_of_find? hkept

theorem renderers_ne_nil : c.renderers ≠ [] := ne_nil_of_ownOrShared h.renderers

theorem has_of_mem_failures {spec : ComponentSpec} (hspec : spec ∈ c.components) {status : Status}
    {description : String} (hfailure : (status, description) ∈ spec.component.failures) :
    c.responses.has status = true := by
  have himplied : failureSpec status description ∈ c.impliedSpecs := by
    refine List.mem_append_left _ (List.mem_append_left _ (List.mem_flatMap.mpr ⟨spec, hspec, ?_⟩))
    exact List.mem_map.mpr ⟨_, hfailure, rfl⟩
  exact h.has_of_mem_impliedSpecs himplied

theorem has_of_mem_rendererSpecs {spec : ResponseSpec} (hspec : spec ∈ c.rendererSpecs) :
    c.responses.has spec.status = true := by
  obtain ⟨renderer, hrenderer⟩ := List.exists_mem_of_ne_nil _ h.renderers_ne_nil
  refine h.has_of_mem_impliedSpecs (List.mem_append_left _ (List.mem_append_right _ ?_))
  exact List.mem_flatMap.mpr ⟨renderer, hrenderer, hspec⟩

theorem has_notAcceptable : c.responses.has .notAcceptable = true :=
  h.has_of_mem_rendererSpecs (List.mem_append_right _ (List.mem_singleton.mpr rfl))

theorem has_unprocessable (validates : c.validateResponses = true) :
    c.responses.has .unprocessable = true := by
  have hspec : failureSpec .unprocessable
      "Raised when returned response does not match the response schema" ∈ c.rendererSpecs := by
    rw [rendererSpecs, if_pos validates]
    exact List.mem_cons_self
  exact h.has_of_mem_rendererSpecs hspec

theorem has_unauthorized {providers : List (AuthProvider m)} (hauth : c.auth = some providers)
    (hsome : providers ≠ []) : c.responses.has .unauthorized = true := by
  obtain ⟨provider, hprovider⟩ := List.exists_mem_of_ne_nil _ hsome
  have himplied : failureSpec .unauthorized "Raised when auth was not successful" ∈
      c.impliedSpecs := by
    refine List.mem_append_right _ (List.mem_flatMap.mpr ⟨provider, ?_, List.mem_singleton.mpr rfl⟩)
    rw [hauth]
    exact hprovider
  exact h.has_of_mem_impliedSpecs himplied

end Built

theorem badRequest_mem_failures {component : Component} (h : component ∈ Component.all) :
    ∃ description, (.badRequest, description) ∈ component.failures := by
  simp only [Component.all, List.mem_cons, List.not_mem_nil, or_false] at h
  rcases h with rfl | rfl | rfl | rfl | rfl | rfl <;> exact ⟨_, List.mem_cons_self⟩

end Contract

theorem AuthPolicy.ne_nil_of_combine_eq_some {m : Type → Type} {own shared : AuthPolicy m}
    {providers : List (AuthProvider m)} (h : own.combine shared = some providers) :
    providers ≠ [] := by
  unfold combine at h
  split at h
  · cases h
  · dsimp only at h
    split at h
    · cases h
    · next hsome =>
      cases h
      exact fun hnil => hsome (List.isEmpty_iff.mpr hnil)

end Accord
