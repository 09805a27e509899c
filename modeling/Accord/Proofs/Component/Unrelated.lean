import Accord.Proofs.Component.Discovering

namespace Accord

/-- A class with some bases, and one more base to put among them; classes are declared before it and behind it. -/
structure Insertion where
  history : List ClassDecl
  name : String
  params : List String := []
  front : List BaseRef
  extra : BaseRef
  back : List BaseRef
  later : List ClassDecl := []
  ignored : String
  registry : Registry

namespace Insertion

def before (i : Insertion) : ClassGraph := ClassGraph.initial.after i.history

def narrow (i : Insertion) : ClassDecl :=
  { name := i.name, params := i.params, bases := i.front ++ i.back }

def wide (i : Insertion) : ClassDecl := { i.narrow with bases := i.front ++ i.extra :: i.back }

def search (i : Insertion) (decl : ClassDecl) : Discovery :=
  ⟨decl.name, i.ignored, ClassGraph.initial.after (i.history ++ decl :: i.later), i.registry⟩

def plain (i : Insertion) : Discovery := i.search i.narrow

def extended (i : Insertion) : Discovery := i.search i.wide

structure Accepted (i : Insertion) : Prop where
  narrow : ∃ g, i.before.declare i.narrow = .ok g
  wide : ∃ g, i.before.declare i.wide = .ok g

/-- The base gives an argument to a parameter with the name of one that is followed for the usage. -/
def Clashes (i : Insertion) (u : BaseRef) : Prop :=
  ∃ param ∈ i.plain.graph.given i.extra,
    (Inference.solve i.plain.graph i.name u.freeParams).has param = true

/-- The base is, or inherits, a usage of the name. -/
def Brings (i : Insertion) (contextName : String) : Prop :=
  i.plain.uses contextName i.extra = true ∨
    ∃ name ∈ i.plain.graph.lineage i.extra.base, i.plain.usagesNamed contextName name ≠ []

/-- Of the classes that write usages of the name, the same one comes first. -/
def KeepsFirst (i : Insertion) (contextName : String) : Prop :=
  (i.extended.writers contextName).head? = (i.plain.writers contextName).head?

instance (i : Insertion) (u : BaseRef) : Decidable (i.Clashes u) :=
  inferInstanceAs (Decidable (∃ param ∈ _, _))

instance (i : Insertion) (contextName : String) : Decidable (i.Brings contextName) :=
  inferInstanceAs (Decidable (_ ∨ ∃ name ∈ _, _))

theorem bases_subset (i : Insertion) : i.front ++ i.back ⊆ i.front ++ i.extra :: i.back :=
  ((List.sublist_cons_self ..).append_left _).subset

variable {i : Insertion} {u : BaseRef} {name contextName : String}

theorem among_before (i : Insertion) : i.extended.among i.before = i.plain.among i.before := rfl

namespace Accepted

variable (accepted : i.Accepted)

include accepted

theorem stands_plain : i.plain.Stands i.before (i.front ++ i.back) := by
  obtain ⟨g, hg⟩ := accepted.narrow
  exact Discovery.stands_of_declare hg _ _

theorem stands_extended : i.extended.Stands i.before (i.front ++ i.extra :: i.back) := by
  obtain ⟨g, hg⟩ := accepted.wide
  exact Discovery.stands_of_declare hg _ _

theorem extra_declared : ∃ above, i.before.get? i.extra.base = some above :=
  accepted.stands_extended.declared _ (List.mem_append_right _ List.mem_cons_self)

theorem lineage_subset : i.plain.lineage ⊆ i.extended.lineage := by
  intro name hname
  refine accepted.stands_extended.mem_lineage.mpr ?_
  refine (accepted.stands_plain.mem_lineage.mp hname).imp_right fun ⟨b, hb, hinherits⟩ => ?_
  exact ⟨b, i.bases_subset hb, hinherits⟩

theorem mem_lineage_extended (hname : name ∈ i.extended.lineage) :
    name ∈ i.plain.lineage ∨ i.before.Inherits i.extra.base name := by
  rw [accepted.stands_plain.mem_lineage]
  rcases accepted.stands_extended.mem_lineage.mp hname with hself | ⟨b, hb, hinherits⟩
  · exact .inl (.inl hself)
  · rcases List.mem_append.mp hb with hfront | hb
    · exact .inl (.inr ⟨b, List.mem_append_left _ hfront, hinherits⟩)
    · rcases List.mem_cons.mp hb with rfl | hback
      · exact .inr hinherits
      · exact .inl (.inr ⟨b, List.mem_append_right _ hback, hinherits⟩)

theorem solve_eq {params : List String}
    (hfree : ∀ param ∈ i.plain.graph.given i.extra,
      (Inference.solve i.plain.graph i.name params).has param = false) :
    Inference.solve i.extended.graph i.name params = Inference.solve i.plain.graph i.name params := by
  have hplain := accepted.stands_plain
  obtain ⟨above, habove⟩ := accepted.extra_declared
  have hnarrow : Inference.solve i.plain.graph i.name params = _ := hplain.solve params
  rw [hnarrow, ClassGraph.given_of_within hplain.before.1 hplain.before.2 hplain.within habove]
    at hfree
  exact (accepted.stands_extended.solve params).trans
    ((Inference.solveFor_insert hplain.before.2 habove hfree).trans hnarrow.symm)

theorem specOf_eq (hu : u ∈ i.plain.usages i.plain.lineage) (hclash : ¬i.Clashes u) :
    i.extended.specOf u = i.plain.specOf u := by
  obtain ⟨above, habove⟩ := accepted.stands_plain.declared_of_usage hu
  refine Discovery.specOf_congr rfl ?_ (accepted.solve_eq fun param hparam => ?_)
  · exact (i.registry.resolve_of_within accepted.stands_extended.within habove).trans
      (i.registry.resolve_of_within accepted.stands_plain.within habove).symm
  · exact Bool.eq_false_iff.mpr fun hhas => hclash ⟨param, hparam, hhas⟩

variable (hcontroller : i.ignored ∈ i.plain.lineage)

include hcontroller

theorem usages_subset : i.plain.usages i.plain.lineage ⊆ i.extended.usages i.extended.lineage := by
  have hplain := accepted.stands_plain
  have hextended := accepted.stands_extended
  intro u hu
  obtain ⟨name, hname, hu⟩ := Discovery.mem_usages.mp hu
  refine Discovery.mem_usages.mpr ⟨name, accepted.lineage_subset hname, ?_⟩
  rcases hplain.eq_or_declared hname with rfl | ⟨entry, hentry⟩
  · rw [hplain.usages_blueprint hcontroller] at hu
    obtain ⟨hmem, husage⟩ := List.mem_filter.mp hu
    have hmore := hextended.usages_blueprint (accepted.lineage_subset hcontroller)
    exact hmore.symm ▸ List.mem_filter.mpr ⟨i.bases_subset hmem, husage⟩
  · rw [← Discovery.usages_among hextended.within hentry hextended.before.1, among_before,
      Discovery.usages_among hplain.within hentry hextended.before.1]
    exact hu

theorem usagesNamed_eq (hbrings : ¬i.Brings contextName) (hname : name ∈ i.extended.lineage) :
    i.extended.usagesNamed contextName name = i.plain.usagesNamed contextName name := by
  have hplain := accepted.stands_plain
  have hextended := accepted.stands_extended
  rcases hextended.eq_or_declared hname with rfl | ⟨entry, hentry⟩
  · obtain ⟨above, habove⟩ := accepted.extra_declared
    have huses : ¬(i.plain.among i.before).uses contextName i.extra = true := by
      rw [Discovery.uses_among hplain.within habove]
      exact fun huses => hbrings (.inl huses)
    rw [hextended.usagesNamed_blueprint (accepted.lineage_subset hcontroller), among_before,
      List.filter_append, List.filter_cons_of_neg huses, ← List.filter_append]
    exact (hplain.usagesNamed_blueprint hcontroller contextName).symm
  · rw [← Discovery.usagesNamed_among hextended.before.1 hextended.within hentry, among_before,
      Discovery.usagesNamed_among hextended.before.1 hplain.within hentry]

theorem mem_writers_iff (hbrings : ¬i.Brings contextName) :
    name ∈ i.extended.writers contextName ↔ name ∈ i.plain.writers contextName := by
  rw [Discovery.writers, Discovery.writers, List.mem_filter, List.mem_filter]
  constructor
  · rintro ⟨hname, hwrites⟩
    rw [accepted.usagesNamed_eq hcontroller hbrings hname] at hwrites
    refine ⟨(accepted.mem_lineage_extended hname).resolve_right fun hinherits => ?_, hwrites⟩
    obtain ⟨above, habove⟩ := accepted.extra_declared
    have hplain := accepted.stands_plain
    refine hbrings (.inr ⟨name, ?_, fun hnone => by rw [hnone] at hwrites; cases hwrites⟩)
    rw [ClassGraph.lineage_of_within hplain.within habove]
    exact (hplain.before.2.mem_lineage habove).mpr hinherits
  · rintro ⟨hname, hwrites⟩
    have hname := accepted.lineage_subset hname
    rw [← accepted.usagesNamed_eq hcontroller hbrings hname] at hwrites
    exact ⟨hname, hwrites⟩

/-- Where only one class uses the name, no other can come in front of it. -/
theorem keepsFirst_of_length_le (hbrings : ¬i.Brings contextName)
    (hone : (i.plain.writers contextName).length ≤ 1) : i.KeepsFirst contextName := by
  have hsame : ∀ name, name ∈ i.extended.writers contextName ↔ name ∈ i.plain.writers contextName :=
    fun _ => accepted.mem_writers_iff hcontroller hbrings
  unfold KeepsFirst
  cases hplain : i.plain.writers contextName with
  | nil =>
    rw [hplain] at hsame
    rw [List.eq_nil_iff_forall_not_mem.mpr fun name hname => List.not_mem_nil ((hsame name).mp hname)]
  | cons only rest =>
    rw [hplain, List.length_cons] at hone
    obtain rfl : rest = [] := List.length_eq_zero_iff.mp (by omega)
    rw [hplain] at hsame
    cases hextended : i.extended.writers contextName with
    | nil =>
      rw [hextended] at hsame
      cases (hsame only).mpr List.mem_cons_self
    | cons first others =>
      have hfirst := (hsame first).mp (hextended ▸ List.mem_cons_self)
      rw [List.mem_singleton.mp hfirst, List.head?_cons, List.head?_cons]

theorem chosen_eq (hbrings : ¬i.Brings contextName) (hkeeps : i.KeepsFirst contextName) :
    i.extended.chosen contextName = i.plain.chosen contextName := by
  rw [Discovery.chosen_eq_bind, Discovery.chosen_eq_bind, hkeeps]
  refine Option.bind_congr fun name hname => ?_
  have hmem := List.mem_of_mem_filter (List.mem_of_head? hname)
  rw [accepted.usagesNamed_eq hcontroller hbrings (accepted.lineage_subset hmem)]

end Accepted

/-- One more base of a controller leaves its components alone: a usage is resolved as without the base if the
base gives no arguments to parameters with the names of those that are followed for it; and a name that the base
does not bring itself has the same component, if that is so for the usage that counts and the base does not put
another class in front of those that use the name. -/
theorem components_kept (accepted : i.Accepted)
    (hcontroller : i.plain.graph.isSubclass i.name i.ignored = true) {specs specs' : List ComponentSpec}
    (hplain : i.plain.components = .ok specs) (hextended : i.extended.components = .ok specs') :
    (∀ u ∈ i.plain.usages i.plain.lineage, u ∈ i.extended.usages i.extended.lineage ∧
      (¬i.Clashes u → ∃ spec, i.plain.specOf u = .ok spec ∧ i.extended.specOf u = .ok spec)) ∧
    (∀ contextName, ¬i.Brings contextName → i.KeepsFirst contextName →
      (∀ u ∈ i.plain.chosen contextName, ¬i.Clashes u) →
      specs'.find? (fun s => s.contextName == contextName) =
        specs.find? fun s => s.contextName == contextName) := by
  have hcontroller : i.ignored ∈ i.plain.lineage := List.contains_iff_mem.mp hcontroller
  refine ⟨fun u hu => ⟨accepted.usages_subset hcontroller hu, fun hclash => ?_⟩,
    fun contextName hbrings hkeeps hclash => ?_⟩
  · obtain ⟨spec, hspec⟩ := Discovery.specOf_of_components hplain hu
    exact ⟨spec, hspec, (accepted.specOf_eq hu hclash).trans hspec⟩
  · rw [Discovery.find?_of_components hplain, Discovery.find?_of_components hextended,
      accepted.chosen_eq hcontroller hbrings hkeeps]
    refine Option.bind_congr fun u hu => ?_
    rw [accepted.specOf_eq (Discovery.mem_usages_of_chosen hu) (hclash u hu)]

/-- The base changes the component of a name, which a class uses that is not above the base. -/
structure Disturbs (i : Insertion) (contextName name : String) (u : BaseRef) (model model' : Schema) :
    Prop where
  accepted : i.Accepted
  controller : i.plain.graph.isSubclass i.name i.ignored = true
  written : name ∈ i.plain.lineage ∧ u ∈ i.plain.usagesNamed contextName name
  apart : name ∉ i.plain.graph.lineage i.extra.base
  unbrought : ¬i.Brings contextName
  plain : i.plain.models = .ok [(contextName, model)]
  extended : i.extended.models = .ok [(contextName, model')]

def controllers : List ClassDecl :=
  Registry.standard.classes ClassGraph.initial ++
    [{ name := "Controller", bases := [BaseRef.generic ["_SerializerT"]] }]

def tagging (param : String) : Insertion where
  history := controllers ++
    [{ name := "Stored", bases := [⟨"Body", [.param "T"]⟩, ⟨"Controller", [.concrete .any]⟩] },
      { name := "Tagged", bases := [BaseRef.generic [param]] }]
  name := "Notes"
  front := []
  extra := ⟨"Tagged", [.concrete .plainInteger]⟩
  back := [⟨"Stored", [.concrete .plainString]⟩]
  ignored := "Controller"
  registry := .standard

def marking : Insertion where
  history := controllers ++
    [{ name := "Texts", bases := [⟨"Body", [.concrete .plainString]⟩, ⟨"Controller", [.concrete .any]⟩] },
      { name := "Counts",
        bases := [⟨"Body", [.concrete .plainInteger]⟩, ⟨"Controller", [.concrete .any]⟩] },
      { name := "Mark" },
      { name := "Marked", bases := [⟨"Mark", []⟩, ⟨"Texts", []⟩] },
      { name := "Counted", bases := [⟨"Counts", []⟩] },
      { name := "Remark", bases := [⟨"Mark", []⟩] }]
  name := "Notes"
  front := [⟨"Marked", []⟩, ⟨"Counted", []⟩]
  extra := ⟨"Remark", []⟩
  back := []
  ignored := "Controller"
  registry := .standard

theorem tagged_body_kept :
    ∃ specs specs', (tagging "L").plain.components = .ok specs ∧
      (tagging "L").extended.components = .ok specs' ∧
      (∃ spec, (tagging "L").plain.specOf ⟨"Body", [.param "T"]⟩ = .ok spec ∧
        (tagging "L").extended.specOf ⟨"Body", [.param "T"]⟩ = .ok spec) ∧
      specs.map (fun s => (s.contextName, s.model)) = [("parsed_body", .plainString)] ∧
      specs'.find? (fun s => s.contextName == "parsed_body") =
        specs.find? fun s => s.contextName == "parsed_body" := by
  have accepted : (tagging "L").Accepted :=
    ⟨⟨_, by with_unfolding_all rfl⟩, ⟨_, by with_unfolding_all rfl⟩⟩
  have hplain : (tagging "L").plain.models = .ok [("parsed_body", .plainString)] := by
    with_unfolding_all rfl
  have hextended : (tagging "L").extended.models = .ok [("parsed_body", .plainString)] := by
    with_unfolding_all rfl
  obtain ⟨specs, hspecs, hmodels⟩ := Discovery.components_of_models hplain
  obtain ⟨specs', hspecs', -⟩ := Discovery.components_of_models hextended
  have hcontroller : (tagging "L").plain.graph.isSubclass "Notes" "Controller" = true := by
    decide +kernel
  obtain ⟨hresolved, hkept⟩ := components_kept accepted hcontroller hspecs hspecs'
  have hbrings : ¬(tagging "L").Brings "parsed_body" := by decide +kernel
  have hone : (tagging "L").plain.writers "parsed_body" = ["Stored"] := by with_unfolding_all rfl
  have hkeeps : (tagging "L").KeepsFirst "parsed_body" :=
    accepted.keepsFirst_of_length_le (List.contains_iff_mem.mp hcontroller) hbrings
      (hone ▸ Nat.le_refl 1)
  have hclash : ¬(tagging "L").Clashes ⟨"Body", [.param "T"]⟩ := by decide +kernel
  have hchosen : (tagging "L").plain.chosen "parsed_body" = some ⟨"Body", [.param "T"]⟩ := by
    with_unfolding_all rfl
  refine ⟨specs, specs', hspecs, hspecs', ?_, hmodels, ?_⟩
  · exact (hresolved _ (Discovery.mem_usages_of_chosen hchosen)).2 hclash
  · refine hkept _ hbrings hkeeps fun u hu => ?_
    rw [hchosen] at hu
    cases hu
    exact hclash

/-- A base that brings no body turns a body of text into one of numbers: by an argument for a parameter of the
same name, and without any argument by the order of the classes. -/
theorem disturbed_by_name_and_by_order :
    (tagging "T").Disturbs "parsed_body" "Stored" ⟨"Body", [.param "T"]⟩ .plainString .plainInteger ∧
    marking.Disturbs "parsed_body" "Texts" ⟨"Body", [.concrete .plainString]⟩ .plainString
      .plainInteger ∧
    Schema.plainString ≠ Schema.plainInteger := by
  refine ⟨?_, ?_, fun h => nomatch h⟩
  all_goals exact {
    accepted := ⟨⟨_, by with_unfolding_all rfl⟩, ⟨_, by with_unfolding_all rfl⟩⟩
    controller := by decide +kernel
    written := ⟨by decide +kernel, List.mem_of_head? (by with_unfolding_all rfl)⟩
    apart := by decide +kernel
    unbrought := by decide +kernel
    plain := by with_unfolding_all rfl
    extended := by with_unfolding_all rfl }

end Insertion

end Accord
