import Accord.Proofs.Classes.Walking
import Mathlib.Data.List.Pairwise

namespace Accord

variable {g : ClassGraph} {name : String} {r : BaseRef}

namespace ClassGraph

def pairs (g : ClassGraph) (r : BaseRef) : List (String × TypeArg) := (g.params r.base).zip r.args

/-- No parameter belongs to two classes or twice to one, and classes name only parameters of their own. -/
structure Tidy (g : ClassGraph) : Prop where
  apart : (g.entries.flatMap fun e => e.2.params).Nodup
  own : ∀ e ∈ g.entries, ∀ r ∈ e.2.bases, ∀ p ∈ r.freeParams, p ∈ e.2.params

/-- A reference gives arguments to all parameters of its class, or to none. -/
def Fitted (g : ClassGraph) : Prop :=
  ∀ name entry, g.get? name = some entry → ∀ r ∈ entry.bases, r.base ≠ BaseRef.genericName →
    r.args = [] ∨ r.args.length = (g.params r.base).length

structure Regular (g : ClassGraph) : Prop where
  closed : g.Closed
  ordered : g.Ordered
  fitted : g.Fitted
  tidy : g.Tidy

theorem fitted_of_checkBase {decl : ClassDecl} (hb : g.checkBase decl r = .ok ())
    (hname : r.base ≠ BaseRef.genericName) :
    r.args = [] ∨ r.args.length = (g.params r.base).length := by
  unfold checkBase at hb
  split at hb
  · cases hb
  · next entry hentry =>
    rw [params_of_get? hentry]
    dsimp only at hb
    split at hb
    · next hcount =>
      rcases hcount with hgeneric | hnone | hall
      · exact absurd hgeneric hname
      · exact .inl (List.length_eq_zero_iff.mp hnone)
      · exact .inr hall
    · cases hb

theorem Fitted.adding {decl : ClassDecl} {entry : ClassEntry} (closed : g.Closed) (fitted : g.Fitted)
    (hdeclares : Declares g decl entry) : (g.adding decl.name entry).Fitted := by
  have hwithin := within_adding decl.name entry g
  intro name found hfound r hr hname
  rw [get?_adding] at hfound
  rcases Option.or_eq_some_iff.mp hfound with hold | ⟨-, hnew⟩
  · obtain ⟨above, habove⟩ := closed name found hold r hr
    rw [params_of_within hwithin habove]
    exact fitted name found hold r hr hname
  · split at hnew
    · cases hnew
      rw [hdeclares.bases] at hr
      have hchecked := hdeclares.checked r hr
      obtain ⟨above, habove⟩ := exists_of_checkBase hchecked
      rw [params_of_within hwithin habove]
      exact fitted_of_checkBase hchecked hname
    · cases hnew

theorem initial_fitted : initial.Fitted := by
  intro name entry hentry r hr
  rw [get?, initial, Named.lookup_cons_ite] at hentry
  split at hentry
  · cases hentry
    cases hr
  · cases hentry

theorem regular_after (history : List ClassDecl) (tidy : (initial.after history).Tidy) :
    (initial.after history).Regular := by
  obtain ⟨closed, ordered⟩ := closed_and_ordered_after history
  have hfitted : (initial.after history).Closed ∧ (initial.after history).Fitted := by
    refine after_induction (P := fun g => g.Closed ∧ g.Fitted) ⟨initial_closed, initial_fitted⟩ ?_ history
    rintro g decl entry ⟨closed, fitted⟩ hdeclares
    exact ⟨closed.adding hdeclares, fitted.adding closed hdeclares⟩
  exact ⟨closed, ordered, hfitted.2, tidy⟩

theorem exists_entry_of_mem_params {p : String} (hp : p ∈ g.params name) :
    ∃ entry, (name, entry) ∈ g.entries ∧ p ∈ entry.params := by
  cases hentry : g.get? name with
  | none =>
    rw [params, hentry] at hp
    cases hp
  | some entry =>
    rw [params_of_get? hentry] at hp
    exact ⟨entry, Named.mem_of_lookup hentry, hp⟩

theorem Tidy.owner_eq (tidy : g.Tidy) {other p : String} (hp : p ∈ g.params name)
    (hother : p ∈ g.params other) : name = other := by
  obtain ⟨entry, hentry, hp⟩ := exists_entry_of_mem_params hp
  obtain ⟨entry', hentry', hother⟩ := exists_entry_of_mem_params hother
  by_contra hne
  have hpairs : (name, entry) ≠ (other, entry') := fun h => hne (congrArg Prod.fst h)
  have : Std.Symm (Function.onFun List.Disjoint fun e : String × ClassEntry => e.2.params) :=
    ⟨fun _ _ h => List.disjoint_symm h⟩
  have hdisjoint := (List.nodup_flatMap.mp tidy.apart).2.forall hentry hentry' hpairs
  exact hdisjoint hp hother

theorem Tidy.nodup_params (tidy : g.Tidy) (name : String) : (g.params name).Nodup := by
  cases hentry : g.get? name with
  | none =>
    rw [params, hentry]
    exact List.nodup_nil
  | some entry =>
    rw [params_of_get? hentry]
    exact (List.nodup_flatMap.mp tidy.apart).1 _ (Named.mem_of_lookup hentry)

theorem Tidy.mem_params_of_arg (tidy : g.Tidy) {p : String} (hr : r ∈ g.bases name)
    (hp : .param p ∈ r.args) : p ∈ g.params name := by
  cases hentry : g.get? name with
  | none =>
    rw [bases, hentry] at hr
    cases hr
  | some entry =>
    rw [bases_of_get? hentry] at hr
    rw [params_of_get? hentry]
    refine tidy.own _ (Named.mem_of_lookup hentry) r hr p ?_
    rw [BaseRef.freeParams, List.mem_eraseDups]
    exact List.mem_filterMap.mpr ⟨_, hp, rfl⟩

namespace Regular

variable (regular : g.Regular)

include regular

theorem not_mem_args_of_mem_params {p : String} (hr : r ∈ g.bases name) (hp : p ∈ g.params r.base) :
    .param p ∉ r.args := by
  intro harg
  have howner := regular.tidy.owner_eq hp (regular.tidy.mem_params_of_arg hr harg)
  exact not_inherits_of_base regular.closed regular.ordered hr (howner ▸ .refl)

theorem names_pairs (hr : r ∈ g.bases name) (hname : r.base ≠ BaseRef.genericName)
    (hgives : r.args ≠ []) : (g.pairs r).map Prod.fst = g.params r.base := by
  cases hentry : g.get? name with
  | none =>
    rw [bases, hentry] at hr
    cases hr
  | some entry =>
    rw [bases_of_get? hentry] at hr
    have hlength := (regular.fitted name entry hentry r hr hname).resolve_left hgives
    exact List.map_fst_zip (Nat.le_of_eq hlength.symm)

end Regular

theorem mem_params_of_mem_pairs {e : String × TypeArg} (he : e ∈ g.pairs r) :
    e.1 ∈ g.params r.base := (List.of_mem_zip he).1

theorem mem_args_of_mem_pairs {e : String × TypeArg} (he : e ∈ g.pairs r) : e.2 ∈ r.args :=
  (List.of_mem_zip he).2

end ClassGraph

namespace Inference

open ClassGraph

variable {solution : Solution} {param : String} {arg : TypeArg} {given : List (String × TypeArg)}

/-- What a parameter is handed over to: the argument that the reference gives it. -/
def handOver (g : ClassGraph) (arg : TypeArg) (r : BaseRef) : Option TypeArg :=
  match arg with
  | .param name => (g.pairs r).lookup name
  | .concrete s => some (.concrete s)

/-- What a parameter is replaced by, if the reference gives it an argument. -/
def substitute (g : ClassGraph) (arg : TypeArg) (r : BaseRef) : TypeArg := (handOver g arg r).getD arg

def putAll (given : List (String × TypeArg)) (solution : Solution) : Solution :=
  given.foldl (fun solution (param, arg) => putArg solution param arg) solution

theorem putBase_eq (g : ClassGraph) (solution : Solution) (r : BaseRef) :
    putBase g solution r = putAll (g.pairs r) solution := rfl

theorem putAll_append (front back : List (String × TypeArg)) (solution : Solution) :
    putAll (front ++ back) solution = putAll back (putAll front solution) := List.foldl_append ..

theorem has_of_lookup (h : solution.lookup param = some arg) : solution.has param = true :=
  Named.has_iff_mem_names.mpr (List.mem_map_of_mem (Named.mem_of_lookup h))

theorem has_putAll (given : List (String × TypeArg)) (h : solution.has param = true) :
    (putAll given solution).has param = true := by
  induction given generalizing solution with
  | nil => exact h
  | cons e rest ih => exact ih (has_putArg _ _ h)

theorem lookup_putArg (solution : Solution) (k : String) (arg : TypeArg) (param : String) :
    (putArg solution k arg).lookup param =
      if solution.has k then
        if arg.param? = some param then some (.param param)
        else if param = k then some arg
        else solution.lookup param
      else solution.lookup param := by
  unfold putArg
  split
  · cases arg with
    | concrete s => rw [if_neg (fun h => nomatch h), Named.lookup_put]
    | param name =>
      rw [TypeArg.param?, Named.lookup_put, Named.lookup_put]
      by_cases h : param = name
      · rw [if_pos h, if_pos (congrArg some h.symm), h]
      · rw [if_neg h, if_neg fun he => h (Option.some.inj he).symm]
  · rfl

theorem has_of_has_putArg {k : String} (h : (putArg solution k arg).has param = true) :
    solution.has param = true ∨ solution.has k = true ∧ arg = .param param := by
  unfold putArg at h
  split at h
  · next hk =>
    cases arg with
    | concrete s =>
      rw [Named.has_iff_mem_names, Named.mem_names_put, ← Named.has_iff_mem_names] at h
      exact .inl (h.elim (fun he => he ▸ hk) id)
    | param name =>
      rw [Named.has_iff_mem_names, Named.mem_names_put, Named.mem_names_put,
        ← Named.has_iff_mem_names] at h
      rcases h with rfl | rfl | h
      · exact .inr ⟨hk, rfl⟩
      · exact .inl hk
      · exact .inl h
  · exact .inl h

theorem lookup_putAll (hfree : param ∉ given.map Prod.fst)
    (h : solution.lookup param = some (.param param) ∨ .param param ∉ given.map Prod.snd) :
    (putAll given solution).lookup param = solution.lookup param := by
  induction given generalizing solution with
  | nil => rfl
  | cons e rest ih =>
    obtain ⟨k, arg⟩ := e
    obtain ⟨hne, hfree⟩ := not_or.mp (List.mem_cons.not.mp hfree)
    have hfirst : (putArg solution k arg).lookup param = solution.lookup param := by
      rw [lookup_putArg, if_neg hne]
      split
      · split
        · next hpassed =>
          refine (h.resolve_right fun hnone => hnone ?_).symm
          cases arg with
          | concrete s => cases hpassed
          | param name =>
            cases hpassed
            exact List.mem_cons_self
        · rfl
      · rfl
    have hrest : (putAll rest (putArg solution k arg)).lookup param = (putArg solution k arg).lookup param :=
      ih hfree (h.imp hfirst.trans fun hnone hmem => hnone (List.mem_cons_of_mem _ hmem))
    exact hrest.trans hfirst

theorem lookup_putBase_of_not_mem (hfree : param ∉ g.params r.base)
    (h : solution.lookup param = some (.param param) ∨ .param param ∉ r.args) :
    (putBase g solution r).lookup param = solution.lookup param := by
  refine lookup_putAll (fun hmem => hfree ?_) (h.imp_right fun hnone hmem => hnone ?_)
  · obtain ⟨e, he, rfl⟩ := List.mem_map.mp hmem
    exact mem_params_of_mem_pairs he
  · obtain ⟨e, he, heq⟩ := List.mem_map.mp hmem
    exact heq ▸ mem_args_of_mem_pairs he

theorem lookup_putBase_of_passed {k : String} (hpassed : (k, .param param) ∈ g.pairs r)
    (hfree : param ∉ g.params r.base) (hk : solution.has k = true) :
    (putBase g solution r).lookup param = some (.param param) := by
  obtain ⟨front, back, hsplit⟩ := List.append_of_mem hpassed
  have hback : param ∉ back.map Prod.fst := by
    intro hmem
    obtain ⟨e, he, rfl⟩ := List.mem_map.mp hmem
    refine hfree (mem_params_of_mem_pairs (g := g) ?_)
    rw [hsplit]
    exact List.mem_append_right _ (List.mem_cons_of_mem _ he)
  have hput : (putArg (putAll front solution) k (.param param)).lookup param = some (.param param) := by
    rw [lookup_putArg, if_pos (has_putAll front hk)]
    exact if_pos rfl
  rw [putBase_eq, hsplit, putAll_append]
  exact (lookup_putAll hback (.inl hput)).trans hput

theorem lookup_putBase_of_given (hgiven : (param, arg) ∈ g.pairs r)
    (distinct : ((g.pairs r).map Prod.fst).Nodup) (hother : .param param ∉ r.args)
    (hparam : solution.has param = true) : (putBase g solution r).lookup param = some arg := by
  obtain ⟨front, back, hsplit⟩ := List.append_of_mem hgiven
  have hargs : ∀ e ∈ g.pairs r, e.2 ≠ .param param := fun e he heq => hother (heq ▸ mem_args_of_mem_pairs he)
  have hput : (putArg (putAll front solution) param arg).lookup param = some arg := by
    rw [lookup_putArg, if_pos (has_putAll front hparam), if_pos rfl, if_neg]
    intro hself
    cases arg with
    | concrete s => cases hself
    | param name =>
      cases hself
      exact hargs _ hgiven rfl
  rw [hsplit] at distinct hargs
  rw [List.map_append, List.map_cons] at distinct
  have hback := (List.nodup_cons.mp distinct.of_append_right).1
  rw [putBase_eq, hsplit, putAll_append]
  refine (lookup_putAll hback (.inr fun hmem => ?_)).trans hput
  obtain ⟨e, he, heq⟩ := List.mem_map.mp hmem
  exact hargs e (List.mem_append_right _ (List.mem_cons_of_mem _ he)) heq

theorem lookup_putBase_of_mem (regular : g.Regular) (hr : r ∈ g.bases name)
    (hname : r.base ≠ BaseRef.genericName) (hparam : param ∈ g.params r.base)
    (h : solution.lookup param = some (.param param) ∨ r.args ≠ [] ∧ solution.has param = true) :
    (putBase g solution r).lookup param = some (substitute g (.param param) r) := by
  by_cases hgives : r.args = []
  · have hnone : g.pairs r = [] := by rw [pairs, hgives, List.zip_nil_right]
    rw [putBase_eq, substitute, handOver, hnone]
    exact h.resolve_right fun ⟨hsome, _⟩ => hsome hgives
  · have hhas : solution.has param = true := h.elim has_of_lookup And.right
    have hnames := regular.names_pairs hr hname hgives
    have hdistinct : ((g.pairs r).map Prod.fst).Nodup := hnames ▸ regular.tidy.nodup_params r.base
    obtain ⟨⟨_, arg⟩, harg, rfl⟩ := List.mem_map.mp (hnames ▸ hparam)
    have hother := regular.not_mem_args_of_mem_params hr hparam
    rw [lookup_putBase_of_given harg hdistinct hother hhas, substitute, handOver,
      (Named.lookup_iff_mem hdistinct).mpr harg]
    rfl

end Inference

end Accord
