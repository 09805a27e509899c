import Accord.Proofs.Component.EffectiveModel
import Accord.Proofs.Component.Flowing

namespace Accord

def Schema.fieldNames? (s : Schema) : Option (List String) :=
  s.model?.map fun model => model.fields.map Prod.fst

theorem eraseDups_concat_of_mem {α : Type} [BEq α] [LawfulBEq α] {a : α} {as : List α} (h : a ∈ as) :
    (as ++ [a]).eraseDups = as.eraseDups := by
  have hnone : [a].removeAll as = [] := by
    rw [List.removeAll, List.filter_singleton, List.elem_eq_true_of_mem h]
    rfl
  rw [List.eraseDups_append, hnone, List.eraseDups_nil, List.append_nil]

theorem eraseDups_concat_of_not_mem {α : Type} [BEq α] [LawfulBEq α] {a : α} {as : List α}
    (h : a ∉ as) : (as ++ [a]).eraseDups = as.eraseDups ++ [a] := by
  have hone : [a].removeAll as = [a] := by
    rw [List.removeAll, List.filter_singleton, Bool.eq_false_iff.mpr (mt List.mem_of_elem_eq_true h)]
    rfl
  rw [List.eraseDups_append, hone]
  rfl

namespace Discovery

variable {d : Discovery} {u : BaseRef} {us : List BaseRef} {spec : ComponentSpec} {specs : List ComponentSpec}

theorem typeArgs_ne_nil_of_specOf (hspec : d.specOf u = .ok spec) : spec.typeArgs ≠ [] := by
  obtain ⟨hsome, -, inferred, hschemas⟩ := parts_of_specOf hspec
  obtain ⟨arg, args, hargs⟩ := List.exists_cons_of_ne_nil hsome
  rw [hargs, List.mapM_cons] at hschemas
  obtain ⟨first, -, hschemas⟩ := ok_of_bind hschemas
  obtain ⟨rest, -, hschemas⟩ := ok_of_bind hschemas
  rw [← Except.ok.inj hschemas]
  exact List.cons_ne_nil first rest

theorem mapM_specOf_concat {built : List ComponentSpec} (h : us.mapM d.specOf = .ok built)
    (hspec : d.specOf u = .ok spec) : (us ++ [u]).mapM d.specOf = .ok (built ++ [spec]) := by
  rw [List.mapM_append, h, List.mapM_cons, hspec]
  rfl

namespace Collects

theorem names (h : d.Collects us specs) : ∃ built, us.mapM d.specOf = .ok built ∧
    specs.map ComponentSpec.contextName = (built.map ComponentSpec.contextName).eraseDups := by
  induction h with
  | start => exact ⟨[], rfl, rfl⟩
  | @known us u specs spec _ hspec hknown ih =>
    obtain ⟨built, hbuilt, hnames⟩ := ih
    rw [hnames, List.mem_eraseDups] at hknown
    refine ⟨built ++ [spec], mapM_specOf_concat hbuilt hspec, ?_⟩
    rw [List.map_append, List.map_singleton, eraseDups_concat_of_mem hknown, hnames]
  | @found us u specs spec _ hspec hfresh ih =>
    obtain ⟨built, hbuilt, hnames⟩ := ih
    rw [hnames, List.mem_eraseDups] at hfresh
    refine ⟨built ++ [spec], mapM_specOf_concat hbuilt hspec, ?_⟩
    rw [List.map_append, List.map_append, List.map_singleton, eraseDups_concat_of_not_mem hfresh, hnames]

theorem nodup_names (h : d.Collects us specs) : (specs.map ComponentSpec.contextName).Nodup := by
  induction h with
  | start => exact List.nodup_nil
  | known _ _ _ ih => exact ih
  | found _ _ hfresh ih =>
    rw [List.map_append, List.map_singleton, ← List.concat_eq_append]
    exact List.Nodup.concat hfresh ih

end Collects

end Discovery

namespace RequestModel

variable {specs : List ComponentSpec} {blueprint : String} {strict : Option Bool}

theorem fieldNames?_combined {name : String} {fields : Named Schema} (distinct : fields.names.Nodup) :
    (combined name fields).fieldNames? = some fields.names := by
  have hnames : (fields.map fun e => (e.1, ({ schema := e.2 } : Field Schema))).map Prod.fst =
      fields.names := by
    rw [List.map_map]
    rfl
  have hfields : (Model.ofSchemas name fields).fields =
      fields.map fun e => (e.1, ({ schema := e.2 } : Field Schema)) :=
    Named.ofList_eq_self (hnames ▸ distinct)
  exact congrArg some ((congrArg (List.map Prod.fst) hfields).trans hnames)

theorem fieldNames?_default (distinct : (specs.map ComponentSpec.contextName).Nodup) :
    (ofSpecs blueprint specs strict).default.fieldNames? =
      some (specs.map ComponentSpec.contextName) := by
  have hnames := names_fieldsOf distinct
  exact hnames ▸ fieldNames?_combined (hnames ▸ distinct)

theorem fieldNames?_variant (distinct : (specs.map ComponentSpec.contextName).Nodup)
    {variant : String × Schema} (hvariant : variant ∈ (ofSpecs blueprint specs strict).variants) :
    variant.2.fieldNames? = some (specs.map ComponentSpec.contextName) := by
  have hvariants : (ofSpecs blueprint specs strict).variants.names = (overridesOf specs).names := by
    rw [Named.names, Named.names, ofSpecs, List.map_map]
    rfl
  have hdistinct : (ofSpecs blueprint specs strict).variants.names.Nodup :=
    hvariants ▸ Named.nodup_names_grouped _
  have hlookup := (Named.lookup_iff_mem hdistinct).mpr hvariant
  have hnames := (names_putAll_replacements variant.1 specs).trans (names_fieldsOf distinct)
  rw [lookup_variants] at hlookup
  split at hlookup
  · cases hlookup
  · rw [← Option.some.inj hlookup, fieldNames?_combined (hnames ▸ distinct), hnames]

end RequestModel

namespace Discovery

/-- A search that succeeds resolves all usages, in the order in which the classes in the lineage of the blueprint
that use components name them. It has one component for each of their names, from the first usage of the name and
with at least one schema, in the order of these usages. The fields of all models for requests have these names, in
this order. -/
theorem components_of_first_usages {d : Discovery} {specs : List ComponentSpec}
    (h : d.components = .ok specs) :
    d.graph.order d.blueprint = .ok d.lineage ∧
    (∃ built, (d.usages d.lineage).mapM d.specOf = .ok built ∧
      specs.map ComponentSpec.contextName = (built.map ComponentSpec.contextName).eraseDups) ∧
    (∀ spec ∈ specs, spec.typeArgs ≠ [] ∧
      ∃ before u after, d.usages d.lineage = before ++ u :: after ∧ d.specOf u = .ok spec ∧
        ∀ v ∈ before, ∀ other, d.specOf v = .ok other → other.contextName ≠ spec.contextName) ∧
    ∀ blueprint strict,
      (RequestModel.ofSpecs blueprint specs strict).default.fieldNames? =
        some (specs.map ComponentSpec.contextName) ∧
      ∀ variant ∈ (RequestModel.ofSpecs blueprint specs strict).variants,
        variant.2.fieldNames? = some (specs.map ComponentSpec.contextName) := by
  have collects := collects_of_components h
  obtain ⟨built, hbuilt, hnames⟩ := collects.names
  have distinct := collects.nodup_names
  refine ⟨order_of_components h, ⟨built, hbuilt, hnames⟩, fun spec hspec => ?_, fun blueprint strict =>
    ⟨RequestModel.fieldNames?_default distinct, fun variant => RequestModel.fieldNames?_variant distinct⟩⟩
  obtain ⟨before, u, after, husages, hbuilt, hfirst⟩ := collects.exists_first hspec
  exact ⟨typeArgs_ne_nil_of_specOf hbuilt, before, u, after, husages, hbuilt, hfirst⟩

def numberOrText : Schema :=
  .conditional [("application/json", .plainInteger), ("text/plain", .plainString)]

def listing : Discovery where
  blueprint := "Notes"
  ignored := "Controller"
  graph := ClassGraph.initial.after (Insertion.controllers ++
    [{ name := "Paged", bases := [⟨"Query", [.concrete .plainInteger]⟩, ⟨"Controller", [.concrete .any]⟩] },
      { name := "Notes", bases := [⟨"Body", [.concrete numberOrText]⟩, ⟨"Paged", []⟩,
        ⟨"Query", [.concrete .plainString]⟩] }])
  registry := .standard

theorem listing_collected :
    ∃ specs, listing.components = .ok specs ∧
      specs = [⟨.body, [numberOrText]⟩, ⟨.query, [.plainString]⟩] ∧
      (listing.usages listing.lineage).map BaseRef.base = ["Body", "Query", "Query"] ∧
      (RequestModel.ofSpecs "Notes" specs none).variants.names = ["application/json", "text/plain"] ∧
      ∀ variant ∈ (RequestModel.ofSpecs "Notes" specs none).variants,
        variant.2.fieldNames? = some ["parsed_body", "parsed_query"] := by
  have hspecs : listing.components = .ok [⟨.body, [numberOrText]⟩, ⟨.query, [.plainString]⟩] := by
    with_unfolding_all rfl
  obtain ⟨-, -, -, hfields⟩ := components_of_first_usages hspecs
  refine ⟨_, hspecs, rfl, ?_, ?_, fun variant hvariant => (hfields "Notes" none).2 variant hvariant⟩
  all_goals with_unfolding_all rfl

end Discovery

end Accord
