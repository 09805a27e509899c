import Accord.Proofs.Contract.Building
import Mathlib.Data.List.Induction
import Mathlib.Data.List.Nodup

namespace Accord

namespace ResponseSpecs

theorem find?_cons (status : Status) (spec : ResponseSpec) (rest : ResponseSpecs) :
    ResponseSpecs.find? status (spec :: rest) =
      if spec.status = status then some spec else rest.find? status := by
  rw [ResponseSpecs.find?, List.find?_cons]
  by_cases h : spec.status = status
  · rw [if_pos h, beq_iff_eq.mpr h]
  · rw [if_neg h, beq_eq_false_iff_ne.mpr h]
    rfl

theorem find?_put (status : Status) (spec : ResponseSpec) (specs : ResponseSpecs) :
    (put spec specs).find? status =
      if spec.status = status then some spec else specs.find? status := by
  induction specs with
  | nil => rw [put, find?_cons]
  | cons known rest ih =>
    unfold put
    split
    · next hknown =>
      rw [find?_cons, find?_cons, hknown]
      split <;> rfl
    · next hknown =>
      rw [find?_cons, find?_cons, ih]
      by_cases h : known.status = status
      · rw [if_pos h, if_neg fun he => hknown (h.trans he.symm), if_pos h]
      · rw [if_neg h, if_neg h]

theorem find?_ofList (status : Status) (specs : List ResponseSpec) :
    (ofList specs).find? status = ResponseSpecs.find? status specs.reverse := by
  unfold ofList
  induction specs using List.reverseRecOn with
  | nil => rfl
  | append_singleton specs spec ih =>
    rw [List.foldl_append, List.foldl_cons, List.foldl_nil, find?_put, ih, List.reverse_append,
      List.reverse_singleton, List.singleton_append, find?_cons]

theorem has_eq_false_of_mem_missing {specs : ResponseSpecs} {implied : List ResponseSpec}
    {spec : ResponseSpec} (h : spec ∈ specs.missing implied) : specs.has spec.status = false := by
  induction implied generalizing specs with
  | nil => cases h
  | cons first rest ih =>
    unfold missing at h
    split at h
    · exact ih h
    · next hmissing =>
      rcases List.mem_cons.mp h with rfl | h
      · exact Bool.eq_false_iff.mpr hmissing
      · have hlonger := ih h
        rw [has, List.any_append] at hlonger
        exact (Bool.or_eq_false_iff.mp hlonger).1

theorem has_of_find? {status : Status} {specs : ResponseSpecs} {spec : ResponseSpec}
    (h : specs.find? status = some spec) : specs.has status = true := by
  have hstatus := List.find?_some h
  exact List.any_eq_true.mpr ⟨spec, List.mem_of_find?_eq_some h, hstatus⟩

theorem find?_append (status : Status) (first rest : ResponseSpecs) :
    ResponseSpecs.find? status (first ++ rest) = (first.find? status).or (rest.find? status) :=
  List.find?_append

theorem statuses_put (spec : ResponseSpec) (specs : ResponseSpecs) :
    (put spec specs).map ResponseSpec.status =
      if spec.status ∈ specs.map ResponseSpec.status then specs.map ResponseSpec.status
      else specs.map ResponseSpec.status ++ [spec.status] := by
  induction specs with
  | nil => rfl
  | cons known rest ih =>
    unfold put
    by_cases h : known.status = spec.status
    · rw [if_pos h, List.map_cons, List.map_cons, h, if_pos List.mem_cons_self]
    · rw [if_neg h, List.map_cons, ih, List.map_cons]
      have hmem : spec.status ∈ known.status :: rest.map ResponseSpec.status ↔
          spec.status ∈ rest.map ResponseSpec.status := by
        rw [List.mem_cons, or_iff_right fun he => h he.symm]
      simp only [hmem]
      split <;> rfl

theorem nodup_ofList (specs : List ResponseSpec) :
    ((ofList specs).map ResponseSpec.status).Nodup := by
  unfold ofList
  induction specs using List.reverseRecOn with
  | nil => exact List.nodup_nil
  | append_singleton specs spec ih =>
    rw [List.foldl_append, List.foldl_cons, List.foldl_nil, statuses_put]
    split
    · exact ih
    · next hnew =>
      rw [← List.concat_eq_append]
      exact (List.nodup_concat _ _).mpr ⟨hnew, ih⟩

theorem find?_self {specs : ResponseSpecs} (distinct : (specs.map ResponseSpec.status).Nodup)
    {spec : ResponseSpec} (h : spec ∈ specs) : specs.find? spec.status = some spec := by
  have hsome : (specs.find? spec.status).isSome = true :=
    List.find?_isSome.mpr ⟨spec, h, beq_self_eq_true _⟩
  obtain ⟨found, hfound⟩ := Option.isSome_iff_exists.mp hsome
  have hstatus := List.find?_some hfound
  rw [hfound, List.inj_on_of_nodup_map distinct (List.mem_of_find?_eq_some hfound) h
    (beq_iff_eq.mp hstatus)]

theorem mem_of_mem_ofList {specs : List ResponseSpec} {spec : ResponseSpec}
    (h : spec ∈ ofList specs) : spec ∈ specs := by
  have hfound := find?_self (nodup_ofList specs) h
  rw [find?_ofList] at hfound
  exact List.mem_reverse.mp (List.mem_of_find?_eq_some hfound)

theorem exists_find?_ofList {specs : List ResponseSpec} {spec : ResponseSpec} (h : spec ∈ specs) :
    ∃ kept ∈ specs, (ofList specs).find? spec.status = some kept := by
  have hsome : (ResponseSpecs.find? spec.status specs.reverse).isSome = true :=
    List.find?_isSome.mpr ⟨spec, List.mem_reverse.mpr h, beq_self_eq_true _⟩
  obtain ⟨kept, hkept⟩ := Option.isSome_iff_exists.mp hsome
  exact ⟨kept, List.mem_reverse.mp (List.mem_of_find?_eq_some hkept),
    (find?_ofList _ _).trans hkept⟩

theorem mem_of_mem_missing {specs : ResponseSpecs} {implied : List ResponseSpec}
    {spec : ResponseSpec} (h : spec ∈ specs.missing implied) : spec ∈ implied := by
  induction implied generalizing specs with
  | nil => cases h
  | cons first rest ih =>
    unfold missing at h
    split at h
    · exact List.mem_cons_of_mem _ (ih h)
    · rcases List.mem_cons.mp h with rfl | h
      · exact List.mem_cons_self
      · exact List.mem_cons_of_mem _ (ih h)

end ResponseSpecs

namespace Contract

variable {m : Type → Type} {endpoint methodName : String} {payload : Payload m}
  {defaults : EndpointDefaults m} {components : List ComponentSpec} {c : Contract m}

theorem find?_declaredSpecs {modification : Modification} (h : c.modification = some modification) :
    (ResponseSpecs.ofList (c.declaredSpecs payload defaults)).find? modification.status =
      some modification.toSpec := by
  have hlast : c.declaredSpecs payload defaults =
      defaults.responses ++ payload.responses ++ [modification.toSpec] := by
    rw [declaredSpecs, h]
    rfl
  rw [ResponseSpecs.find?_ofList, hlast, List.reverse_append, List.reverse_singleton,
    List.singleton_append, ResponseSpecs.find?_cons]
  exact if_pos rfl

theorem find?_allSpecs_of_declared {status : Status} {spec : ResponseSpec}
    (h : (ResponseSpecs.ofList (c.declaredSpecs payload defaults)).find? status = some spec) :
    (ResponseSpecs.ofList (c.allSpecs payload defaults)).find? status = some spec := by
  have himplied : ∀ spec ∈
      ((ResponseSpecs.ofList (c.declaredSpecs payload defaults)).missing c.impliedSpecs).reverse,
      ¬(spec.status == status) = true := by
    intro spec hspec hstatus
    have hmissing := ResponseSpecs.has_eq_false_of_mem_missing (List.mem_reverse.mp hspec)
    rw [beq_iff_eq.mp hstatus, ResponseSpecs.has_of_find? h] at hmissing
    cases hmissing
  rw [ResponseSpecs.find?_ofList] at h ⊢
  rw [allSpecs, List.reverse_append, ResponseSpecs.find?, List.find?_append,
    List.find?_eq_none.mpr himplied, Option.none_or]
  exact h

theorem find?_allSpecs {modification : Modification} (h : c.modification = some modification) :
    (ResponseSpecs.ofList (c.allSpecs payload defaults)).find? modification.status =
      some modification.toSpec :=
  find?_allSpecs_of_declared (find?_declaredSpecs h)

theorem responses_of_checkSpecs {specs : List ResponseSpec} {responses : ResponseSpecs}
    (h : c.checkSpecs endpoint specs = .ok responses) : responses = ResponseSpecs.ofList specs := by
  unfold checkSpecs at h
  obtain ⟨⟨⟩, -, h⟩ := ok_of_bind h
  obtain ⟨⟨⟩, -, h⟩ := ok_of_bind h
  obtain ⟨⟨⟩, -, h⟩ := ok_of_bind h
  dsimp only at h
  split at h
  · obtain ⟨⟨⟩, -, h⟩ := ok_of_bind h
    cases h
    rfl
  · cases h
    rfl

theorem Built.find?_modification (h : Built endpoint payload defaults components methodName c)
    {modification : Modification} (hmodification : c.modification = some modification) :
    c.responses.find? modification.status = some modification.toSpec := by
  rw [responses_of_checkSpecs h.responses]
  exact find?_allSpecs hmodification

theorem refused_if_any_eq_ok_iff {α : Type} {refused : α → Bool} {entries : List α}
    {failure : Failure} :
    (if entries.any refused then .error failure else .ok () : Except Failure Unit) = .ok () ↔
      ∀ e ∈ entries, refused e = false := by
  cases hany : entries.any refused with
  | true =>
    obtain ⟨e, he, hrefused⟩ := List.any_eq_true.mp hany
    refine ⟨fun h => (nomatch h), fun h => ?_⟩
    rw [h e he] at hrefused
    cases hrefused
  | false =>
    refine ⟨fun _ e he => ?_, fun _ => rfl⟩
    exact Bool.eq_false_iff.mpr (List.any_eq_false.mp hany e he)

theorem checkNewHeaders_eq_ok_iff {raw : RawResponse} : checkNewHeaders endpoint raw = .ok () ↔
    ∀ e ∈ raw.headers.getD [], ∀ spec, e.2 = .described spec → spec.schemaOnly = true := by
  rw [checkNewHeaders]
  refine refused_if_any_eq_ok_iff.trans (forall₂_congr fun e _ => ?_)
  cases e.2 with
  | added header => simp
  | described spec => simp

theorem checkNewCookies_eq_ok_iff {raw : RawResponse} : checkNewCookies endpoint raw = .ok () ↔
    ∀ e ∈ raw.cookies.getD [], ∀ spec, e.2 = .described spec → spec.schemaOnly = true := by
  rw [checkNewCookies]
  refine refused_if_any_eq_ok_iff.trans (forall₂_congr fun e _ => ?_)
  cases e.2 with
  | added cookie => simp
  | described spec => simp

def modificationFor (method : String) (raw : RawResponse) : Modification where
  returnType := raw.returnType
  status := raw.status.getD (inferredStatus method)
  headers := raw.headers
  cookies := raw.cookies

theorem modificationOf_eq_ok {method : String} {raw : RawResponse} {found : Option Modification}
    (hraw : payload.raw? = some raw) (h : modificationOf endpoint method payload defaults = .ok found) :
    found = some (modificationFor method raw) ∧ checkNewHeaders endpoint raw = .ok () ∧
      checkNewCookies endpoint raw = .ok () := by
  simp only [modificationOf, hraw] at h
  obtain ⟨⟨⟩, hheaders, h⟩ := ok_of_bind h
  obtain ⟨⟨⟩, hcookies, h⟩ := ok_of_bind h
  cases h
  exact ⟨rfl, hheaders, hcookies⟩

end Contract

end Accord
