import Accord.Component.RequestModel
import Accord.Proofs.Named

namespace Accord

namespace ComponentSpec

/-- Of the models that depend on the content type, the last whose key has this essence. -/
def conditionalModel? (essence : String) (spec : ComponentSpec) : Option Schema :=
  (spec.conditionalTypes.reverse.find? fun (key, _) => (MediaType.read key).essence == essence).map
    Prod.snd

/-- What the data of a component has to be in a request with this content type. -/
def effectiveModel (contentType : Option String) (spec : ComponentSpec) : Schema :=
  (contentType.bind fun raw => spec.conditionalModel? (MediaType.read raw).essence).getD spec.model

def replacements (essence : String) (spec : ComponentSpec) : List (String × Schema) :=
  Named.groupOf essence (spec.conditionalTypes.map fun (key, s) =>
    ((MediaType.read key).essence, spec.contextName, s))

theorem name_of_mem_replacements {essence : String} {spec : ComponentSpec} {e : String × Schema}
    (h : e ∈ spec.replacements essence) : e.1 = spec.contextName := by
  obtain ⟨⟨key, s⟩, -, he⟩ := List.mem_map.mp (Named.mem_groupOf.mp h)
  exact congrArg (fun entry => entry.2.1) he.symm

theorem lookup_replacements (essence : String) (spec : ComponentSpec) :
    (spec.replacements essence).reverse.lookup spec.contextName = spec.conditionalModel? essence :=
  Named.lookup_groupOf_map (fun key => (MediaType.read key).essence) essence spec.contextName
    spec.conditionalTypes

theorem lookup_replacements_of_ne {essence name : String} {spec : ComponentSpec}
    (h : name ≠ spec.contextName) : (spec.replacements essence).reverse.lookup name = none := by
  rw [Named.lookup_eq_none_iff_not_mem]
  intro hmem
  obtain ⟨e, he, rfl⟩ := List.mem_map.mp hmem
  exact h (name_of_mem_replacements (List.mem_reverse.mp he))

end ComponentSpec

namespace RequestModel

variable {specs : List ComponentSpec}

def replacements (essence : String) (specs : List ComponentSpec) : List (String × Schema) :=
  specs.flatMap (ComponentSpec.replacements essence)

theorem replacements_append (essence : String) (specs more : List ComponentSpec) :
    replacements essence (specs ++ more) = replacements essence specs ++ replacements essence more :=
  List.flatMap_append

theorem replacements_cons (essence : String) (spec : ComponentSpec) (rest : List ComponentSpec) :
    replacements essence (spec :: rest) = spec.replacements essence ++ replacements essence rest :=
  List.flatMap_cons

theorem lookup_replacements_of_absent {essence name : String}
    (h : ∀ spec ∈ specs, spec.contextName ≠ name) :
    (replacements essence specs).reverse.lookup name = none := by
  rw [Named.lookup_eq_none_iff_not_mem, List.map_reverse, List.mem_reverse]
  intro hname
  obtain ⟨e, he, rfl⟩ := List.mem_map.mp hname
  obtain ⟨spec, hspec, he⟩ := List.mem_flatMap.mp he
  exact h spec hspec (ComponentSpec.name_of_mem_replacements he).symm

theorem lookup_replacements_of_alone {essence : String} {before after : List ComponentSpec}
    {spec : ComponentSpec}
    (others : ∀ other ∈ before ++ after, other.contextName ≠ spec.contextName) :
    (replacements essence (before ++ spec :: after)).reverse.lookup spec.contextName =
      spec.conditionalModel? essence := by
  obtain ⟨hbefore, hafter⟩ := List.forall_mem_append.mp others
  rw [replacements_append, replacements_cons, List.reverse_append, List.reverse_append,
    List.lookup_append, List.lookup_append, lookup_replacements_of_absent hbefore,
    lookup_replacements_of_absent hafter, Option.none_or, Option.or_none,
    ComponentSpec.lookup_replacements]

theorem lookup_replacements (essence : String) (distinct : (specs.map ComponentSpec.contextName).Nodup)
    {spec : ComponentSpec} (hspec : spec ∈ specs) :
    (replacements essence specs).reverse.lookup spec.contextName =
      spec.conditionalModel? essence := by
  obtain ⟨before, after, rfl⟩ := List.append_of_mem hspec
  rw [List.map_append, List.map_cons, List.nodup_middle, List.nodup_cons, ← List.map_append]
    at distinct
  refine lookup_replacements_of_alone fun other hother he => ?_
  exact distinct.1 (he ▸ List.mem_map_of_mem hother)

theorem lookup_overridesOf (essence : String) (specs : List ComponentSpec) :
    (overridesOf specs).lookup essence =
      if replacements essence specs = [] then none
      else some (Named.ofList (replacements essence specs)) := by
  have hentries : Named.groupOf essence (specs.flatMap fun spec =>
      spec.conditionalTypes.map fun (key, s) =>
        ((MediaType.read key).essence, spec.contextName, s)) = replacements essence specs :=
    List.filterMap_flatMap
  rw [← hentries]
  exact Named.lookup_grouped essence _

theorem names_specs {α : Type} (f : ComponentSpec → α) (specs : List ComponentSpec) :
    (specs.map fun spec => (spec.contextName, f spec)).map Prod.fst =
      specs.map ComponentSpec.contextName := by
  rw [List.map_map]
  rfl

theorem nodup_names_specs {α : Type} (f : ComponentSpec → α)
    (distinct : (specs.map ComponentSpec.contextName).Nodup) :
    ((specs.map fun spec => (spec.contextName, f spec)).map Prod.fst).Nodup := by
  rw [names_specs]
  exact distinct

theorem lookup_specs {α : Type} (f : ComponentSpec → α)
    (distinct : (specs.map ComponentSpec.contextName).Nodup) {spec : ComponentSpec}
    (hspec : spec ∈ specs) :
    (specs.map fun spec => (spec.contextName, f spec)).lookup spec.contextName =
      some (f spec) := by
  rw [Named.lookup_iff_mem (nodup_names_specs f distinct)]
  exact List.mem_map.mpr ⟨spec, hspec, rfl⟩

theorem fieldsOf_eq (distinct : (specs.map ComponentSpec.contextName).Nodup) :
    fieldsOf specs = specs.map fun spec => (spec.contextName, spec.model) :=
  Named.ofList_eq_self (nodup_names_specs _ distinct)

theorem names_fieldsOf (distinct : (specs.map ComponentSpec.contextName).Nodup) :
    (fieldsOf specs).names = specs.map ComponentSpec.contextName := by
  rw [fieldsOf_eq distinct, Named.names, names_specs]

theorem mem_names_fieldsOf {name : String} :
    name ∈ (fieldsOf specs).names ↔ name ∈ specs.map ComponentSpec.contextName := by
  rw [fieldsOf, Named.mem_names_ofList, names_specs]

theorem names_putAll_replacements (essence : String) (specs : List ComponentSpec) :
    (Named.putAll (Named.ofList (replacements essence specs)) (fieldsOf specs)).names =
      (fieldsOf specs).names := by
  refine Named.names_putAll fun e he => ?_
  have hname : e.1 ∈ (replacements essence specs).map Prod.fst :=
    Named.mem_names_ofList.mp (List.mem_map_of_mem he)
  obtain ⟨e', he', hname⟩ := List.mem_map.mp hname
  obtain ⟨spec, hspec, he'⟩ := List.mem_flatMap.mp he'
  rw [mem_names_fieldsOf, ← hname, ComponentSpec.name_of_mem_replacements he']
  exact List.mem_map_of_mem hspec

theorem putAll_replacements (essence : String)
    (distinct : (specs.map ComponentSpec.contextName).Nodup) :
    Named.putAll (Named.ofList (replacements essence specs)) (fieldsOf specs) =
      specs.map fun spec =>
        (spec.contextName, (spec.conditionalModel? essence).getD spec.model) := by
  have hnames : (Named.putAll (Named.ofList (replacements essence specs)) (fieldsOf specs)).names =
      specs.map ComponentSpec.contextName := by
    rw [names_putAll_replacements, names_fieldsOf distinct]
  refine Named.ext_of_lookup ?_ (hnames ▸ distinct) fun name hname => ?_
  · rw [hnames, Named.names, names_specs]
  · rw [hnames] at hname
    obtain ⟨spec, hspec, rfl⟩ := List.mem_map.mp hname
    rw [Named.lookup_putAll_ofList, lookup_replacements essence distinct hspec,
      fieldsOf_eq distinct, lookup_specs _ distinct hspec, lookup_specs _ distinct hspec]
    cases spec.conditionalModel? essence <;> rfl

theorem lookup_variants (essence blueprint : String) (specs : List ComponentSpec)
    (strict : Option Bool) :
    (ofSpecs blueprint specs strict).variants.lookup essence =
      if replacements essence specs = [] then none
      else some (combined ("_" ++ blueprint ++ "@ContextModel" ++ "#" ++ essence)
        (Named.putAll (Named.ofList (replacements essence specs)) (fieldsOf specs))) := by
  have hmap : (ofSpecs blueprint specs strict).variants.lookup essence =
      ((overridesOf specs).lookup essence).map fun overridden =>
        combined ("_" ++ blueprint ++ "@ContextModel" ++ "#" ++ essence)
          (Named.putAll overridden (fieldsOf specs)) :=
    Named.lookup_map_value fun essence overridden =>
      combined ("_" ++ blueprint ++ "@ContextModel" ++ "#" ++ essence)
        (Named.putAll overridden (fieldsOf specs))
  rw [hmap, lookup_overridesOf]
  split <;> rfl

theorem modelFor_some (blueprint : String) (specs : List ComponentSpec) (strict : Option Bool)
    (raw : String) :
    ∃ name, (ofSpecs blueprint specs strict).modelFor (some raw) =
      combined name (Named.putAll (Named.ofList (replacements (MediaType.read raw).essence specs))
        (fieldsOf specs)) := by
  simp only [modelFor, Option.bind_some, lookup_variants]
  split
  · next hs =>
    split at hs
    · cases hs
    · obtain rfl := Option.some.inj hs
      exact ⟨_, rfl⟩
  · next hs =>
    split at hs
    · next hnil =>
      rw [hnil]
      exact ⟨_, rfl⟩
    · cases hs

/-- For every content type the model has the fields of all components, in order, each with the
model that is in effect for that content type. -/
theorem modelFor_eq (blueprint : String) (strict : Option Bool) (contentType : Option String)
    (distinct : (specs.map ComponentSpec.contextName).Nodup) :
    ∃ name, (ofSpecs blueprint specs strict).modelFor contentType =
      combined name (specs.map fun spec => (spec.contextName, spec.effectiveModel contentType)) := by
  cases contentType with
  | none =>
    refine ⟨"_" ++ blueprint ++ "@ContextModel", ?_⟩
    exact congrArg (combined _) (fieldsOf_eq distinct)
  | some raw =>
    obtain ⟨name, hmodel⟩ := modelFor_some blueprint specs strict raw
    exact ⟨name, hmodel.trans (congrArg (combined name) (putAll_replacements _ distinct))⟩

end RequestModel

end Accord
