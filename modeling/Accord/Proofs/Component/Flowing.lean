import Accord.Proofs.Classes.Solving
import Accord.Proofs.Component.Unrelated

namespace Accord

open ClassGraph Inference

variable {g : ClassGraph} {name own first : String} {u : BaseRef} {way : List BaseRef}

theorem BaseRef.exists_concrete {arg : TypeArg} (hconcrete : u.isConcrete = true) (harg : arg ∈ u.args) :
    ∃ s, arg = .concrete s := by
  cases arg with
  | concrete s => exact ⟨s, rfl⟩
  | param name =>
    have hfree : name ∈ u.freeParams := by
      rw [freeParams, List.mem_eraseDups]
      exact List.mem_filterMap.mpr ⟨_, harg, rfl⟩
    rw [isConcrete, List.isEmpty_iff] at hconcrete
    rw [hconcrete] at hfree
    cases hfree

namespace Inference

/-- What a parameter is handed over to on a way, from the last reference on: nothing, if one of them gives it no
argument. -/
def flow (g : ClassGraph) (way : List BaseRef) (param : String) : Option TypeArg :=
  way.foldlM (handOver g) (.param param)

theorem flow_concat (g : ClassGraph) (way : List BaseRef) (u : BaseRef) (param : String) :
    flow g (way ++ [u]) param = (flow g way param).bind fun arg => handOver g arg u := by
  rw [flow, flow, List.foldlM_append]
  refine Option.bind_congr fun arg _ => ?_
  rw [List.foldlM_cons]
  cases handOver g arg u <;> rfl

theorem handOver_first (hfirst : (g.params u.base).head? = some first) :
    handOver g (.param first) u = u.args.head? := by
  obtain ⟨rest, hrest⟩ := List.head?_eq_some_iff.mp hfirst
  rw [handOver, pairs, hrest]
  cases u.args with
  | nil => rfl
  | cons arg args => rw [List.zip_cons_cons, Named.lookup_cons_ite, if_pos rfl, List.head?_cons]

theorem first_of_flow (hfirst : (g.params name).head? = some first)
    (hflow : ∀ models : List Schema, models.length = (g.params name).length →
      flow g (way ++ [⟨name, models.map .concrete⟩]) own = models.head?.map .concrete) :
    flow g way own = some (.param first) := by
  obtain ⟨rest, hrest⟩ := List.head?_eq_some_iff.mp hfirst
  have hmodels (s t : Schema) : (flow g way own).bind
      (fun arg => handOver g arg ⟨name, .concrete s :: List.replicate rest.length (.concrete t)⟩) =
        some (.concrete s) := by
    have h := hflow (s :: List.replicate rest.length t) (by simp [hrest])
    rwa [flow_concat, List.map_cons, List.map_replicate] at h
  cases hway : flow g way own with
  | none =>
    have h := hmodels .any .any
    rw [hway] at h
    cases h
  | some arg =>
    cases arg with
    | concrete s =>
      have hany := hmodels .any .any
      have hinteger := hmodels .plainInteger .any
      rw [hway] at hany hinteger
      cases hany
      cases hinteger
    | param q =>
      have h := hmodels .plainInteger .any
      rw [hway, Option.bind_some, handOver, pairs, hrest, List.zip_cons_cons, Named.lookup_cons_ite] at h
      split at h
      · next hq => rw [hq]
      · have hmem := (List.of_mem_zip (Named.mem_of_lookup h)).2
        cases List.eq_of_mem_replicate hmem

end Inference

namespace Discovery

variable {d : Discovery} {spec : ComponentSpec} {specs : List ComponentSpec}

theorem head?_args_of_specOf (hconcrete : u.isConcrete = true) (hspec : d.specOf u = .ok spec) :
    u.args.head? = some (.concrete spec.model) := by
  obtain ⟨hsome, -, inferred, hschemas⟩ := parts_of_specOf hspec
  obtain ⟨arg, args, hargs⟩ := List.exists_cons_of_ne_nil hsome
  obtain ⟨s, rfl⟩ := BaseRef.exists_concrete hconcrete (hargs ▸ List.mem_cons_self : arg ∈ u.args)
  rw [hargs, List.mapM_cons] at hschemas
  obtain ⟨first, hfirst, hschemas⟩ := ok_of_bind hschemas
  obtain ⟨rest, -, hschemas⟩ := ok_of_bind hschemas
  cases hfirst
  rw [hargs, List.head?_cons, ComponentSpec.model, ← Except.ok.inj hschemas]
  rfl

/-- A way on which the component is above the class that is used. -/
def Leads (d : Discovery) (u : BaseRef) (c : Component) (way : List BaseRef) : Prop :=
  Way d.graph u.base way ∧ reached u.base way = c.className

theorem className_of_lookup {components : List Component} {c : Component}
    (h : (Registry.ofList components).lookup name = some c) : c.className = name := by
  rw [Registry.ofList, Named.lookup_ofList] at h
  obtain ⟨c', -, hentry⟩ := List.mem_map.mp (List.mem_reverse.mp (Named.mem_of_lookup h))
  cases hentry
  rfl

theorem exists_leads {components : List Component} (ordered : d.graph.Ordered)
    (hregistry : d.registry = Registry.ofList components) (hspec : d.specOf u = .ok spec) :
    ∃ way, d.Leads u spec.component way := by
  obtain ⟨order, horder, hfound⟩ := ok_of_bind (resolve_of_specOf hspec)
  split at hfound
  · next c hc =>
    cases hfound
    obtain ⟨name, hname, hlookup⟩ := List.exists_of_findSome?_eq_some hc
    rw [hregistry] at hlookup
    unfold ClassGraph.order at horder
    split at horder
    · next found hentry =>
      cases horder
      obtain ⟨entry, hget, rfl⟩ := Option.map_eq_some_iff.mp hentry
      obtain ⟨way, hway, hreached⟩ := exists_way (((ordered u.base entry hget).mem_iff name).mp hname)
      exact ⟨way, hway, hreached.trans (className_of_lookup hlookup).symm⟩
    · cases horder
  · cases hfound

/-- Every component comes from a usage. If the arguments of a usage are concrete, the model is the first one, and
there are ways on which the component is above the class that is used. On each of them the model is what flows into
the parameter of the component, if that is given the first parameter of the class that is used; and if it is not, then
something else flows for some arguments. -/
theorem model_flows_of_first_handed_over {history : List ClassDecl} {components : List Component}
    (hgraph : d.graph = initial.after history) (hregistry : d.registry = Registry.ofList components)
    (hspecs : d.components = .ok specs) :
    (∀ spec ∈ specs, ∃ u ∈ d.usages d.lineage, d.specOf u = .ok spec) ∧
    ∀ u ∈ d.usages d.lineage, u.isConcrete = true → ∀ spec, d.specOf u = .ok spec →
      u.args.head? = some (.concrete spec.model) ∧ (∃ way, d.Leads u spec.component way) ∧
      ∀ way, d.Leads u spec.component way → ∀ own ∈ (d.graph.params spec.component.className).head?,
        ∀ first ∈ (d.graph.params u.base).head?,
          (flow d.graph way own = some (.param first) →
            flow d.graph (way ++ [u]) own = some (.concrete spec.model)) ∧
          ((∀ models : List Schema, models.length = (d.graph.params u.base).length →
            flow d.graph (way ++ [⟨u.base, models.map .concrete⟩]) own = models.head?.map .concrete) →
              flow d.graph way own = some (.param first)) := by
  have ordered : d.graph.Ordered := hgraph ▸ (closed_and_ordered_after history).2
  refine ⟨fun spec hmem => ?_, fun u _ hconcrete spec hspec => ?_⟩
  · exact exists_usage_of_mem hspecs hmem
  · have hmodel := head?_args_of_specOf hconcrete hspec
    refine ⟨hmodel, exists_leads ordered hregistry hspec, ?_⟩
    refine fun way _ own _ first hfirst => ⟨fun hhanded => ?_, ?_⟩
    · rw [flow_concat, hhanded, Option.bind_some, handOver_first hfirst, hmodel]
    · exact first_of_flow hfirst

def pagedUsage : BaseRef := ⟨"Paged", [.concrete .plainInteger, .concrete .plainString]⟩

def pagedQuery : BaseRef := ⟨"Query", [.param "Q"]⟩

def paging (params : List String) : Discovery where
  blueprint := "Notes"
  ignored := "Controller"
  graph := initial.after (Insertion.controllers ++
    [{ name := "Paged", bases := [pagedQuery, BaseRef.generic params] },
      { name := "Notes", bases := [pagedUsage, ⟨"Controller", [.concrete .any]⟩] }])
  registry := .standard

theorem paging_found {params : List String} (h : params = ["Q", "P"] ∨ params = ["P", "Q"]) :
    ∃ specs spec, (paging params).components = .ok specs ∧ spec ∈ specs ∧
      pagedUsage ∈ (paging params).usages (paging params).lineage ∧
      (paging params).specOf pagedUsage = .ok spec ∧ spec.component = .query ∧ spec.model = .plainInteger ∧
      (paging params).Leads pagedUsage .query [pagedQuery] := by
  have hmodels : (paging params).models = .ok [("parsed_query", .plainInteger)] := by
    rcases h with rfl | rfl <;> with_unfolding_all rfl
  have husages : (paging params).usages (paging params).lineage = [pagedUsage] := by
    rcases h with rfl | rfl <;> with_unfolding_all rfl
  have hresolve : (paging params).registry.resolve (paging params).graph "Paged" = .ok .query := by
    rcases h with rfl | rfl <;> with_unfolding_all rfl
  have hbases : (paging params).graph.bases "Paged" = [pagedQuery, BaseRef.generic params] := by
    rcases h with rfl | rfl <;> with_unfolding_all rfl
  obtain ⟨specs, hspecs, hmodels⟩ := components_of_models hmodels
  have husage : pagedUsage ∈ (paging params).usages (paging params).lineage := husages ▸ List.mem_cons_self
  obtain ⟨spec, hlisted, -⟩ := List.mem_map.mp (hmodels ▸ List.mem_cons_self)
  obtain ⟨u, hu, hspec⟩ := exists_usage_of_mem hspecs hlisted
  rw [husages, List.mem_singleton] at hu
  subst hu
  have hcomponent : spec.component = .query := Except.ok.inj ((resolve_of_specOf hspec).symm.trans hresolve)
  have hhead : some (TypeArg.concrete .plainInteger) = some (.concrete spec.model) :=
    head?_args_of_specOf rfl hspec
  have hmodel : spec.model = .plainInteger := (TypeArg.concrete.inj (Option.some.inj hhead)).symm
  refine ⟨specs, spec, hspecs, hlisted, husage, hspec, hcomponent, hmodel, ?_, rfl⟩
  exact .up .start (hbases ▸ List.mem_cons_self)

theorem first_parameter_flows :
    ∃ spec, (paging ["Q", "P"]).specOf pagedUsage = .ok spec ∧ spec.model = .plainInteger ∧
      flow (paging ["Q", "P"]).graph [pagedQuery, pagedUsage] "_QueryT" = some (.concrete spec.model) := by
  obtain ⟨specs, spec, hspecs, -, husage, hspec, hcomponent, hmodel, hleads⟩ := paging_found (.inl rfl)
  obtain ⟨-, hall⟩ := model_flows_of_first_handed_over rfl rfl hspecs
  obtain ⟨-, -, hways⟩ := hall pagedUsage husage rfl spec hspec
  rw [hcomponent] at hways
  refine ⟨spec, hspec, hmodel, (hways _ hleads "_QueryT" ?_ "Q" ?_).1 ?_⟩
  all_goals with_unfolding_all rfl

/-- The model of a component is not always what flows into it: a class may hand over another parameter than its
first one. -/
theorem model_need_not_flow :
    ¬∀ (d : Discovery) specs, d.components = .ok specs → ∀ spec ∈ specs, ∀ u ∈ d.usages d.lineage,
      d.specOf u = .ok spec → u.isConcrete = true → ∀ way, d.Leads u spec.component way →
        ∀ own ∈ (d.graph.params spec.component.className).head?,
          flow d.graph (way ++ [u]) own = some (.concrete spec.model) := by
  intro hclaim
  obtain ⟨specs, spec, hspecs, hlisted, husage, hspec, hcomponent, hmodel, hleads⟩ := paging_found (.inr rfl)
  have hown : "_QueryT" ∈ ((paging ["P", "Q"]).graph.params "Query").head? := by with_unfolding_all rfl
  have hflow := hclaim _ specs hspecs spec hlisted pagedUsage husage hspec rfl [pagedQuery]
    (hcomponent ▸ hleads) "_QueryT" (hcomponent ▸ hown)
  have htext : flow (paging ["P", "Q"]).graph [pagedQuery, pagedUsage] "_QueryT" =
      some (.concrete .plainString) := by
    with_unfolding_all rfl
  rw [hmodel] at hflow
  exact nomatch htext.symm.trans hflow

end Discovery

end Accord
