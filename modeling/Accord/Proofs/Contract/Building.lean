import Accord.Contract.Build

namespace Accord

theorem ok_of_bind {α β : Type} {x : Except Failure α} {f : α → Except Failure β} {b : β}
    (h : (x >>= f) = .ok b) : ∃ a, x = .ok a ∧ f a = .ok b := by
  cases x with
  | error failure => cases h
  | ok a => exact ⟨a, rfl, h⟩

theorem bind_of_ok {α β : Type} {x : Except Failure α} {a : α} (h : x = .ok a)
    (f : α → Except Failure β) : (x >>= f) = f a := by
  rw [h]
  rfl

theorem foldlM_keeps {α β : Type} {f : β → α → Except Failure β} {P : β → Prop} {steps : List α}
    {start last : β} (keeps : ∀ a ∈ steps, ∀ b b', P b → f b a = .ok b' → P b')
    (h : steps.foldlM f start = .ok last) (hstart : P start) : P last := by
  induction steps generalizing start with
  | nil =>
    cases h
    exact hstart
  | cons a rest ih =>
    rw [List.foldlM_cons] at h
    obtain ⟨next, hnext, hrest⟩ := ok_of_bind h
    have hkept := keeps a List.mem_cons_self start next hstart hnext
    exact ih (fun a ha => keeps a (List.mem_cons_of_mem _ ha)) hrest hkept

theorem error_of_bind {α β : Type} {x : Except Failure α} {f : α → Except Failure β}
    {failure : Failure} (h : (x >>= f) = .error failure) :
    x = .error failure ∨ ∃ a, x = .ok a ∧ f a = .error failure := by
  cases x with
  | error _ =>
    cases h
    exact .inl rfl
  | ok a => exact .inr ⟨a, rfl, h⟩

theorem error_of_forM {α : Type} {f : α → Except Failure Unit} {l : List α} {failure : Failure}
    (h : l.forM f = .error failure) : ∃ a ∈ l, f a = .error failure := by
  induction l with
  | nil => cases h
  | cons a rest ih =>
    rcases error_of_bind h with hfirst | ⟨_, -, hrest⟩
    · exact ⟨a, List.mem_cons_self, hfirst⟩
    · obtain ⟨b, hb, hfailed⟩ := ih hrest
      exact ⟨b, List.mem_cons_of_mem _ hb, hfailed⟩

theorem error_of_foldlM {α β : Type} {f : β → α → Except Failure β} {l : List α} {start : β}
    {failure : Failure} (h : l.foldlM f start = .error failure) :
    ∃ a ∈ l, ∃ b, f b a = .error failure := by
  induction l generalizing start with
  | nil => cases h
  | cons a rest ih =>
    rw [List.foldlM_cons] at h
    rcases error_of_bind h with hfirst | ⟨next, -, hrest⟩
    · exact ⟨a, List.mem_cons_self, start, hfirst⟩
    · obtain ⟨b, hb, hfailed⟩ := ih hrest
      exact ⟨b, List.mem_cons_of_mem _ hb, hfailed⟩

theorem forM_eq_ok_iff {α : Type} {f : α → Except Failure Unit} {l : List α} :
    l.forM f = .ok () ↔ ∀ a ∈ l, f a = .ok () := by
  induction l with
  | nil => exact ⟨fun _ => List.forall_mem_nil _, fun _ => rfl⟩
  | cons a rest ih =>
    rw [List.forall_mem_cons, ← ih]
    constructor
    · intro h
      obtain ⟨⟨⟩, hfirst, hrest⟩ := ok_of_bind h
      exact ⟨hfirst, hrest⟩
    · rintro ⟨hfirst, hrest⟩
      exact (bind_of_ok hfirst _).trans hrest

namespace Contract

variable {m : Type → Type} {endpoint methodName : String} {payload : Payload m}
  {defaults : EndpointDefaults m} {components : List ComponentSpec} {c : Contract m}

def assembled (payload : Payload m) (defaults : EndpointDefaults m)
    (components : List ComponentSpec) (method : String) (modification : Option Modification)
    (parsers : BodyParsers) (renderers : Renderers) (responses : ResponseSpecs) : Contract m where
  method := method
  responses := responses
  validateResponses := payload.options.validateResponses.getD defaults.validateResponses
  modification := modification
  errorHandler := payload.options.errorHandler
  components := components
  parsers := parsers
  renderers := renderers
  auth := payload.options.auth.combine defaults.auth
  skippedRules := BodyRule.union payload.options.skippedRules defaults.skippedRules
  allowedMethods := defaults.allowedMethods
  summary := payload.options.summary
  description := payload.options.description
  tags := payload.options.tags
  operationId := payload.options.operationId
  deprecated := payload.options.deprecated

/-- The contract is the one that a declaration makes, and all in it makes sense. -/
structure Built (endpoint : String) (payload : Payload m) (defaults : EndpointDefaults m)
    (components : List ComponentSpec) (methodName : String) (c : Contract m) : Prop where
  method : methodOfName methodName
    (payload.options.allowCustomMethods || defaults.allowedMethods.contains methodName) =
      .ok c.method
  modification : modificationOf endpoint c.method payload defaults = .ok c.modification
  parsers : ownOrShared endpoint "parser" payload.options.parsers defaults.parsers = .ok c.parsers
  renderers :
    ownOrShared endpoint "renderer" payload.options.renderers defaults.renderers = .ok c.renderers
  responses : c.checkSpecs endpoint (c.allSpecs payload defaults) = .ok c.responses
  requestBody : c.checkRequestBody endpoint = .ok ()
  checked : components.forM c.checkComponent = .ok ()
  parts : c = assembled payload defaults components c.method c.modification c.parsers c.renderers
    c.responses

theorem build_eq_ok_iff : build endpoint payload defaults components methodName = .ok c ↔
    Built endpoint payload defaults components methodName c := by
  constructor
  · intro h
    unfold build at h
    obtain ⟨method, hmethod, h⟩ := ok_of_bind h
    obtain ⟨modification, hmodification, h⟩ := ok_of_bind h
    obtain ⟨parsers, hparsers, h⟩ := ok_of_bind h
    obtain ⟨renderers, hrenderers, h⟩ := ok_of_bind h
    obtain ⟨responses, hresponses, h⟩ := ok_of_bind h
    obtain ⟨⟨⟩, hbody, h⟩ := ok_of_bind h
    obtain ⟨⟨⟩, hcomponents, h⟩ := ok_of_bind h
    cases h
    exact ⟨hmethod, hmodification, hparsers, hrenderers, hresponses, hbody, hcomponents, rfl⟩
  · rintro ⟨hmethod, hmodification, hparsers, hrenderers, hresponses, hbody, hcomponents, hparts⟩
    cases c
    cases hparts
    refine (bind_of_ok hmethod _).trans ?_
    refine (bind_of_ok hmodification _).trans ?_
    refine (bind_of_ok hparsers _).trans ?_
    refine (bind_of_ok hrenderers _).trans ?_
    refine (bind_of_ok hresponses _).trans ?_
    refine (bind_of_ok hbody _).trans ?_
    exact (bind_of_ok hcomponents _).trans rfl

namespace Built

variable (h : Built endpoint payload defaults components methodName c)

include h

theorem validateResponses :
    c.validateResponses = payload.options.validateResponses.getD defaults.validateResponses := by
  rw [h.parts]
  rfl

theorem errorHandler : c.errorHandler = payload.options.errorHandler := by
  rw [h.parts]
  rfl

theorem auth : c.auth = payload.options.auth.combine defaults.auth := by
  rw [h.parts]
  rfl

end Built

theorem ne_nil_of_ownOrShared {α : Type} {endpoint kind : String} {own : Option (Named α)}
    {shared chosen : Named α} (h : ownOrShared endpoint kind own shared = .ok chosen) :
    chosen ≠ [] := by
  simp only [ownOrShared] at h
  split at h
  · cases h
  · next hsome =>
    cases h
    exact fun hnil => hsome (List.isEmpty_iff.mpr hnil)

end Contract

end Accord
