import Accord.Component.Registry
import Accord.Proofs.Classes.Inferring

namespace Accord

variable {g h : ClassGraph} {name : String} {entry : ClassEntry}

theorem Registry.resolve_of_within (registry : Registry) (hwithin : g.Within h)
    (hentry : g.get? name = some entry) : registry.resolve h name = registry.resolve g name := by
  rw [resolve, resolve, ClassGraph.order, ClassGraph.order,
    ClassGraph.order?_of_get? hentry, ClassGraph.order?_of_get? (hwithin _ _ hentry)]

namespace Discovery

variable {d : Discovery} {u : BaseRef} {us : List BaseRef} {spec : ComponentSpec}
  {specs next : List ComponentSpec} {contextName : String}

def lineage (d : Discovery) : List String := d.graph.lineage d.blueprint

def isNamed (d : Discovery) (contextName : String) (u : BaseRef) : Bool :=
  match d.registry.resolve d.graph u.base with
  | .ok c => c.contextName == contextName
  | .error _ => false

def uses (d : Discovery) (contextName : String) (b : BaseRef) : Bool :=
  d.isNamed contextName b && d.isUsage b.base

def usagesNamed (d : Discovery) (contextName name : String) : List BaseRef :=
  (d.usages [name]).filter (d.isNamed contextName)

def writers (d : Discovery) (contextName : String) : List String :=
  d.lineage.filter fun name => !(d.usagesNamed contextName name).isEmpty

/-- The usage of a name that counts: the first one. -/
def chosen (d : Discovery) (contextName : String) : Option BaseRef :=
  (d.lineage.flatMap (d.usagesNamed contextName)).head?

theorem usages_singleton (d : Discovery) (name : String) : d.usages [name] =
    if d.isDefinition name then [] else (d.graph.bases name).filter fun b => d.isUsage b.base := by
  rw [usages, List.filter_singleton]
  cases d.isDefinition name with
  | true => rfl
  | false => exact List.flatMap_singleton ..

theorem mem_bases_of_mem_usages (hu : u ∈ d.usages [name]) : u ∈ d.graph.bases name := by
  rw [usages_singleton] at hu
  split at hu
  · cases hu
  · exact List.mem_of_mem_filter hu

theorem usages_cons (d : Discovery) (name : String) (order : List String) :
    d.usages (name :: order) = d.usages [name] ++ d.usages order := by
  rw [usages, usages, usages, ← List.flatMap_append, ← List.filter_append]
  rfl

theorem usages_eq_flatMap (d : Discovery) (order : List String) :
    d.usages order = order.flatMap fun name => d.usages [name] := by
  induction order with
  | nil => rfl
  | cons name rest ih => rw [usages_cons, ih, List.flatMap_cons]

theorem filter_isNamed_usages (d : Discovery) (order : List String) :
    (d.usages order).filter (d.isNamed contextName) = order.flatMap (d.usagesNamed contextName) := by
  rw [usages_eq_flatMap, List.filter_flatMap]
  rfl

theorem mem_usages {order : List String} : u ∈ d.usages order ↔ ∃ name ∈ order, u ∈ d.usages [name] := by
  rw [usages_eq_flatMap, List.mem_flatMap]

theorem parts_of_specOf (hspec : d.specOf u = .ok spec) :
    u.args ≠ [] ∧ d.registry.resolve d.graph u.base = .ok spec.component ∧
      ∃ inferred, u.args.mapM (d.argSchema u inferred) = .ok spec.typeArgs := by
  unfold specOf at hspec
  split at hspec
  · cases hspec
  · next hsome =>
    obtain ⟨component, hcomponent, hspec⟩ := ok_of_bind hspec
    obtain ⟨inferred, -, hspec⟩ := ok_of_bind hspec
    obtain ⟨args, hargs, hspec⟩ := ok_of_bind hspec
    cases hspec
    exact ⟨mt List.isEmpty_iff.mpr hsome, hcomponent, inferred, hargs⟩

theorem resolve_of_specOf (hspec : d.specOf u = .ok spec) :
    d.registry.resolve d.graph u.base = .ok spec.component :=
  (parts_of_specOf hspec).2.1

theorem isNamed_of_specOf (hspec : d.specOf u = .ok spec) :
    d.isNamed contextName u = (spec.contextName == contextName) := by
  rw [isNamed, resolve_of_specOf hspec]
  rfl

/-- The course of a search: the component of each usage is kept if its name is new. -/
inductive Collects (d : Discovery) : List BaseRef → List ComponentSpec → Prop
  | start : Collects d [] []
  | known {us : List BaseRef} {u : BaseRef} {specs : List ComponentSpec} {spec : ComponentSpec}
      (before : Collects d us specs) (hspec : d.specOf u = .ok spec)
      (hknown : spec.contextName ∈ specs.map ComponentSpec.contextName) :
      Collects d (us ++ [u]) specs
  | found {us : List BaseRef} {u : BaseRef} {specs : List ComponentSpec} {spec : ComponentSpec}
      (before : Collects d us specs) (hspec : d.specOf u = .ok spec)
      (hfresh : spec.contextName ∉ specs.map ComponentSpec.contextName) :
      Collects d (us ++ [u]) (specs ++ [spec])

theorem addUsage_eq_ok_iff : d.addUsage specs u = .ok next ↔ ∃ spec, d.specOf u = .ok spec ∧
    next = if spec.contextName ∈ specs.map ComponentSpec.contextName then specs else specs ++ [spec] := by
  have hknown (spec : ComponentSpec) :
      (specs.any fun known => known.contextName == spec.contextName) = true ↔
        spec.contextName ∈ specs.map ComponentSpec.contextName := by
    rw [List.any_eq_true, List.mem_map]
    exact exists_congr fun _ => and_congr_right fun _ => beq_iff_eq
  constructor
  · intro h
    obtain ⟨spec, hspec, hnext⟩ := ok_of_bind h
    refine ⟨spec, hspec, ?_⟩
    split at hnext
    · next hold =>
      cases hnext
      rw [if_pos ((hknown spec).mp hold)]
    · next hnew =>
      cases hnext
      rw [if_neg (mt (hknown spec).mpr hnew)]
  · rintro ⟨spec, hspec, rfl⟩
    refine (bind_of_ok hspec _).trans ?_
    split
    · next hold => rw [if_pos ((hknown spec).mp hold)]; rfl
    · next hnew => rw [if_neg (mt (hknown spec).mpr hnew)]; rfl

theorem collects_of_foldlM (h : us.foldlM d.addUsage [] = .ok specs) : d.Collects us specs := by
  induction us using List.reverseRecOn generalizing specs with
  | nil =>
    cases h
    exact .start
  | append_singleton us u ih =>
    rw [List.foldlM_append] at h
    obtain ⟨before, hbefore, hlast⟩ := ok_of_bind h
    rw [List.foldlM_cons] at hlast
    obtain ⟨last, hadded, hlast⟩ := ok_of_bind hlast
    cases hlast
    obtain ⟨spec, hspec, hnext⟩ := addUsage_eq_ok_iff.mp hadded
    split at hnext
    · next hknown => exact hnext ▸ .known (ih hbefore) hspec hknown
    · next hfresh => exact hnext ▸ .found (ih hbefore) hspec hfresh

namespace Collects

theorem resolved (h : d.Collects us specs) (hu : u ∈ us) : ∃ spec, d.specOf u = .ok spec := by
  induction h with
  | start => cases hu
  | known _ hspec _ ih | found _ hspec _ ih =>
    rcases List.mem_append.mp hu with hu | hu
    · exact ih hu
    · exact ⟨_, List.mem_singleton.mp hu ▸ hspec⟩

theorem mem_names (h : d.Collects us specs) (hu : u ∈ us) (hspec : d.specOf u = .ok spec) :
    spec.contextName ∈ specs.map ComponentSpec.contextName := by
  induction h with
  | start => cases hu
  | known _ hown hknown ih =>
    rcases List.mem_append.mp hu with hu | hu
    · exact ih hu
    · cases List.mem_singleton.mp hu
      cases hown.symm.trans hspec
      exact hknown
  | found _ hown _ ih =>
    rw [List.map_append, List.mem_append]
    rcases List.mem_append.mp hu with hu | hu
    · exact .inl (ih hu)
    · cases List.mem_singleton.mp hu
      cases hown.symm.trans hspec
      exact .inr List.mem_cons_self

theorem exists_first (h : d.Collects us specs) (hmem : spec ∈ specs) :
    ∃ before u after, us = before ++ u :: after ∧ d.specOf u = .ok spec ∧
      ∀ v ∈ before, ∀ other, d.specOf v = .ok other → other.contextName ≠ spec.contextName := by
  induction h with
  | start => cases hmem
  | @known us last specs _ _ _ _ ih =>
    obtain ⟨before, u, after, rfl, hfirst⟩ := ih hmem
    exact ⟨before, u, after ++ [last], List.append_assoc .., hfirst⟩
  | @found us last specs own hbefore hspec hfresh ih =>
    rcases List.mem_append.mp hmem with hmem | hmem
    · obtain ⟨before, u, after, rfl, hfirst⟩ := ih hmem
      exact ⟨before, u, after ++ [last], List.append_assoc .., hfirst⟩
    · cases List.mem_singleton.mp hmem
      refine ⟨us, last, [], rfl, hspec, fun v hv other hother hsame => hfresh ?_⟩
      exact hsame ▸ hbefore.mem_names hv hother

theorem find?_eq (h : d.Collects us specs) (contextName : String) :
    specs.find? (fun s => s.contextName == contextName) =
      (us.find? (d.isNamed contextName)).bind fun u => (d.specOf u).toOption := by
  induction h with
  | start => rfl
  | @known us u specs spec before hspec hknown ih =>
    rw [List.find?_append, List.find?_singleton, isNamed_of_specOf hspec, ih]
    cases hearlier : us.find? (d.isNamed contextName) with
    | some v => rfl
    | none =>
      rw [hearlier, Option.bind_none, List.find?_eq_none] at ih
      obtain ⟨known, hmem, hsame⟩ := List.mem_map.mp hknown
      rw [← hsame, if_neg (ih known hmem), Option.or_none]
  | @found us u specs spec before hspec hfresh ih =>
    rw [List.find?_append, List.find?_append, List.find?_singleton, List.find?_singleton,
      isNamed_of_specOf hspec, ih]
    cases hearlier : us.find? (d.isNamed contextName) with
    | some v =>
      obtain ⟨earlier, hv⟩ := before.resolved (List.mem_of_find?_eq_some hearlier)
      rw [Option.some_or, Option.bind_some, hv]
      rfl
    | none =>
      rw [Option.bind_none, Option.none_or, Option.none_or]
      split
      · rw [Option.bind_some, hspec]
        rfl
      · rfl

end Collects

theorem lineage_of_order {order : List String} (h : d.graph.order d.blueprint = .ok order) :
    d.lineage = order := by
  unfold ClassGraph.order at h
  split at h
  · next found hfound =>
    cases h
    rw [lineage, ClassGraph.lineage, hfound]
    rfl
  · cases h

theorem order_of_components (h : d.components = .ok specs) :
    d.graph.order d.blueprint = .ok d.lineage := by
  obtain ⟨order, horder, -⟩ := ok_of_bind h
  rw [lineage_of_order horder, horder]

theorem collects_of_components (h : d.components = .ok specs) : d.Collects (d.usages d.lineage) specs := by
  obtain ⟨order, horder, hfold⟩ := ok_of_bind h
  rw [lineage_of_order horder]
  exact collects_of_foldlM hfold

def models (d : Discovery) : Except Failure (Named Schema) := do
  let specs ← d.components
  return specs.map fun spec => (spec.contextName, spec.model)

theorem components_of_models {models : Named Schema} (h : d.models = .ok models) :
    ∃ specs, d.components = .ok specs ∧
      specs.map (fun spec => (spec.contextName, spec.model)) = models := by
  obtain ⟨specs, hspecs, hmodels⟩ := ok_of_bind h
  exact ⟨specs, hspecs, Except.ok.inj hmodels⟩

theorem specOf_of_components (h : d.components = .ok specs) (hu : u ∈ d.usages d.lineage) :
    ∃ spec, d.specOf u = .ok spec :=
  (collects_of_components h).resolved hu

theorem exists_usage_of_mem (h : d.components = .ok specs) (hmem : spec ∈ specs) :
    ∃ u ∈ d.usages d.lineage, d.specOf u = .ok spec := by
  obtain ⟨before, u, after, husages, hspec, -⟩ := (collects_of_components h).exists_first hmem
  exact ⟨u, husages ▸ List.mem_append_right before List.mem_cons_self, hspec⟩

/-- The component of a name is that of the first usage of the name. -/
theorem find?_of_components (h : d.components = .ok specs) (contextName : String) :
    specs.find? (fun s => s.contextName == contextName) =
      (d.chosen contextName).bind fun u => (d.specOf u).toOption := by
  rw [(collects_of_components h).find?_eq, chosen, ← filter_isNamed_usages, List.head?_filter]

theorem mem_usages_of_chosen (h : d.chosen contextName = some u) : u ∈ d.usages d.lineage := by
  rw [chosen, ← filter_isNamed_usages] at h
  exact List.mem_of_mem_filter (List.mem_of_head? h)

theorem chosen_eq_bind (d : Discovery) (contextName : String) : d.chosen contextName =
    (d.writers contextName).head?.bind fun name => (d.usagesNamed contextName name).head? := by
  rw [chosen, writers]
  induction d.lineage with
  | nil => rfl
  | cons name rest ih =>
    rw [List.flatMap_cons, List.head?_append, ih, List.filter_cons]
    cases hwritten : d.usagesNamed contextName name with
    | nil => rfl
    | cons u others =>
      have hwrites : (!(u :: others).isEmpty) = true := rfl
      rw [if_pos hwrites, List.head?_cons, List.head?_cons, Option.bind_some, hwritten]
      rfl

def among (d : Discovery) (g : ClassGraph) : Discovery := { d with graph := g }

theorem isSubclass_of_within {base : String} (hwithin : g.Within h)
    (hentry : g.get? name = some entry) : h.isSubclass name base = g.isSubclass name base := by
  rw [ClassGraph.isSubclass, ClassGraph.isSubclass, ClassGraph.order?_of_get? hentry,
    ClassGraph.order?_of_get? (hwithin _ _ hentry)]

section

variable (hwithin : g.Within d.graph) (hentry : g.get? name = some entry)

include hwithin hentry

theorem isDefinition_among : (d.among g).isDefinition name = d.isDefinition name := by
  rw [isDefinition, isDefinition, isSubclass_of_within hwithin hentry,
    isSubclass_of_within hwithin hentry]
  rfl

theorem isUsage_among : (d.among g).isUsage name = d.isUsage name := by
  rw [isUsage, isUsage, isDefinition_among hwithin hentry]

theorem usages_among (closed : g.Closed) : (d.among g).usages [name] = d.usages [name] := by
  rw [usages_singleton, usages_singleton, isDefinition_among hwithin hentry]
  split
  · rfl
  · rw [among, ClassGraph.bases_of_within hwithin hentry]
    refine List.filter_congr fun b hb => ?_
    obtain ⟨above, habove⟩ := closed.declared_of_mem_bases hb
    exact isUsage_among hwithin habove

end

theorem isNamed_among (hwithin : g.Within d.graph) (hentry : g.get? u.base = some entry)
    (contextName : String) : (d.among g).isNamed contextName u = d.isNamed contextName u := by
  rw [isNamed, isNamed, d.registry.resolve_of_within hwithin hentry]
  rfl

theorem uses_among (hwithin : g.Within d.graph) (hentry : g.get? u.base = some entry)
    (contextName : String) : (d.among g).uses contextName u = d.uses contextName u := by
  rw [uses, uses, isNamed_among hwithin hentry, isUsage_among hwithin hentry]

theorem usagesNamed_among (closed : g.Closed) (hwithin : g.Within d.graph)
    (hentry : g.get? name = some entry) (contextName : String) :
    (d.among g).usagesNamed contextName name = d.usagesNamed contextName name := by
  rw [usagesNamed, usagesNamed, usages_among hwithin hentry closed]
  refine List.filter_congr fun u hu => ?_
  have hu := mem_bases_of_mem_usages hu
  rw [ClassGraph.bases_of_within hwithin hentry] at hu
  obtain ⟨above, habove⟩ := closed.declared_of_mem_bases hu
  exact isNamed_among hwithin habove contextName

theorem specOf_congr {e : Discovery} (hblueprint : e.blueprint = d.blueprint)
    (hresolve : e.registry.resolve e.graph u.base = d.registry.resolve d.graph u.base)
    (hsolve : Inference.solve e.graph e.blueprint u.freeParams =
      Inference.solve d.graph d.blueprint u.freeParams) : e.specOf u = d.specOf u := by
  have hinfer : Inference.inferBase e.graph e.blueprint u =
      Inference.inferBase d.graph d.blueprint u := by
    rw [Inference.inferBase, Inference.inferBase, Inference.inferAll, Inference.inferAll, hsolve]
  have hargs : e.argSchema u = d.argSchema u := by
    funext inferred arg
    rw [argSchema.eq_def, argSchema.eq_def, hblueprint]
  rw [specOf, specOf, hresolve, hinfer, hargs, hblueprint]

/-- The class that is searched has these bases, which were there before it. -/
structure Stands (d : Discovery) (g : ClassGraph) (bases : List BaseRef) : Prop where
  before : g.Closed ∧ g.Ordered
  now : d.graph.Closed ∧ d.graph.Ordered
  within : g.Within d.graph
  found : ∃ entry, d.graph.get? d.blueprint = some entry ∧ entry.bases = bases
  declared : ∀ b ∈ bases, ∃ above, g.get? b.base = some above

theorem stands_of_declare {history later : List ClassDecl} {decl : ClassDecl}
    (haccepted : (ClassGraph.initial.after history).declare decl = .ok h) (ignored : String)
    (registry : Registry) :
    Stands ⟨decl.name, ignored, ClassGraph.initial.after (history ++ decl :: later), registry⟩
      (ClassGraph.initial.after history) decl.bases := by
  obtain ⟨entry, hdeclares, hadded⟩ := ClassGraph.declare_eq_ok_iff.mp haccepted
  have hlater : ClassGraph.initial.after (history ++ decl :: later) = h.after later := by
    rw [ClassGraph.after_append]
    exact congrArg (ClassGraph.after later) (by rw [ClassGraph.attempt, haccepted])
  have hadding : (ClassGraph.initial.after history).Within h := by
    rw [hadded]
    exact ClassGraph.within_adding _ _ _
  have hwithin : h.Within (ClassGraph.initial.after (history ++ decl :: later)) := by
    rw [hlater]
    exact ClassGraph.within_after later h
  have hentry : h.get? decl.name = some entry := by
    rw [hadded]
    exact hdeclares.get?_adding_self
  exact {
    before := ClassGraph.closed_and_ordered_after history
    now := ClassGraph.closed_and_ordered_after _
    within := hadding.trans hwithin
    found := ⟨entry, hwithin _ _ hentry, hdeclares.bases⟩
    declared := fun b hb => ClassGraph.exists_of_checkBase (hdeclares.checked b hb) }

namespace Stands

variable {bases : List BaseRef} (stands : d.Stands g bases)

include stands

theorem mem_lineage :
    name ∈ d.lineage ↔ name = d.blueprint ∨ ∃ b ∈ bases, g.Inherits b.base name := by
  obtain ⟨entry, hentry, hbases⟩ := stands.found
  rw [lineage, stands.now.2.mem_lineage hentry, ClassGraph.inherits_iff_of_get? hentry, hbases]
  refine or_congr_right (exists_congr fun b => and_congr_right fun hb => ?_)
  obtain ⟨above, habove⟩ := stands.declared b hb
  exact stands.before.1.inherits_iff_of_within stands.within habove

theorem bases_blueprint : d.graph.bases d.blueprint = bases := by
  obtain ⟨entry, hentry, hbases⟩ := stands.found
  rw [ClassGraph.bases_of_get? hentry, hbases]

theorem solve (params : List String) :
    Inference.solve d.graph d.blueprint params = Inference.solveFor g bases params := by
  obtain ⟨entry, hentry, rfl⟩ := stands.found
  exact Inference.solve_eq_solveFor stands.before.1 stands.before.2 stands.now.1 stands.now.2
    stands.within hentry stands.declared params

theorem eq_or_declared (hname : name ∈ d.lineage) :
    name = d.blueprint ∨ ∃ entry, g.get? name = some entry := by
  refine (stands.mem_lineage.mp hname).imp_right fun ⟨b, hb, hinherits⟩ => ?_
  obtain ⟨above, habove⟩ := stands.declared b hb
  exact stands.before.1.declared_of_inherits habove hinherits

theorem declared_of_usage (hu : u ∈ d.usages d.lineage) : ∃ above, g.get? u.base = some above := by
  obtain ⟨name, hname, hu⟩ := mem_usages.mp hu
  have hu := mem_bases_of_mem_usages hu
  rcases stands.eq_or_declared hname with rfl | ⟨entry, hentry⟩
  · rw [stands.bases_blueprint] at hu
    exact stands.declared u hu
  · rw [ClassGraph.bases_of_within stands.within hentry] at hu
    exact stands.before.1.declared_of_mem_bases hu

section

variable (hcontroller : d.ignored ∈ d.lineage)

include hcontroller

theorem usages_blueprint :
    d.usages [d.blueprint] = bases.filter fun b => (d.among g).isUsage b.base := by
  have hplain : d.isDefinition d.blueprint = false := by
    have hbelow : d.graph.isSubclass d.blueprint d.ignored = true :=
      List.contains_iff_mem.mpr hcontroller
    rw [isDefinition, hbelow, Bool.not_true, Bool.and_false]
  rw [usages_singleton, hplain, if_neg Bool.false_ne_true, stands.bases_blueprint]
  refine List.filter_congr fun b hb => ?_
  obtain ⟨above, habove⟩ := stands.declared b hb
  exact (isUsage_among stands.within habove).symm

theorem usagesNamed_blueprint (contextName : String) :
    d.usagesNamed contextName d.blueprint = bases.filter ((d.among g).uses contextName) := by
  rw [usagesNamed, stands.usages_blueprint hcontroller, List.filter_filter]
  refine List.filter_congr fun b hb => ?_
  obtain ⟨above, habove⟩ := stands.declared b hb
  rw [uses, isNamed_among stands.within habove]

end

end Stands

end Discovery

end Accord
