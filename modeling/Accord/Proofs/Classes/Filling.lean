import Accord.Proofs.Classes.Solving

namespace Accord

open Inference

variable {g : ClassGraph} {context name target param : String} {params : List String} {r : BaseRef}
  {arg : TypeArg} {solution : Solution} {way bases : List BaseRef} {ways front back : List (List BaseRef)}

/-- The reference gives arguments to the parameters of a class. -/
def BaseRef.gives (name : String) (r : BaseRef) : Bool := r.base == name && !r.args.isEmpty

namespace ClassGraph

/-- A parameter of a class is passed on to one of those that are followed, by one reference or by several. -/
inductive Passed (g : ClassGraph) (params : List String) : String → String → Prop
  | once {r : BaseRef} {name k param : String} : r ∈ g.bases name → r.base ≠ BaseRef.genericName →
      (k, .param param) ∈ g.pairs r → k ∈ params → Passed g params name param
  | again {r : BaseRef} {name k param : String} : r ∈ g.bases name → r.base ≠ BaseRef.genericName →
      (k, .param param) ∈ g.pairs r → Passed g params r.base k → Passed g params name param

theorem Passed.mem_params (tidy : g.Tidy) (passed : Passed g params name param) : param ∈ g.params name := by
  cases passed with
  | once hr _ hpair _ => exact tidy.mem_params_of_arg hr (mem_args_of_mem_pairs hpair)
  | again hr _ hpair _ => exact tidy.mem_params_of_arg hr (mem_args_of_mem_pairs hpair)

end ClassGraph

namespace Inference

open ClassGraph

def fill (g : ClassGraph) (ways : List (List BaseRef)) (solution : Solution) : Solution :=
  (ways.filterMap List.head?).foldr (fun r solution => putBase g solution r) solution

theorem fill_append (front back : List (List BaseRef)) (solution : Solution) :
    fill g (front ++ back) solution = fill g front (fill g back solution) := by
  rw [fill, List.filterMap_append, List.foldr_append]
  rfl

theorem fill_cons (r : BaseRef) (way : List BaseRef) (ways : List (List BaseRef)) (solution : Solution) :
    fill g ((r :: way) :: ways) solution = putBase g (fill g ways solution) r := rfl

theorem fill_induction {P : Solution → Prop} (start : P solution)
    (step : ∀ r way, r :: way ∈ ways → ∀ solution, P solution → P (putBase g solution r)) :
    P (fill g ways solution) := by
  induction ways with
  | nil => exact start
  | cons way ways ih =>
    have hrest := ih fun r way hway => step r way (List.mem_cons_of_mem _ hway)
    cases way with
    | nil => exact hrest
    | cons r way => exact step r way List.mem_cons_self _ hrest

theorem has_fill (ways : List (List BaseRef)) (h : solution.has param = true) :
    (fill g ways solution).has param = true :=
  fill_induction (P := fun filled => filled.has param = true) h fun _ _ _ _ => has_putBase

theorem lookup_fill_of_free (hfree : ∀ r way, r :: way ∈ ways → param ∉ g.params r.base)
    (h : solution.lookup param = some (.param param) ∨ ∀ r way, r :: way ∈ ways → .param param ∉ r.args) :
    (fill g ways solution).lookup param = solution.lookup param := by
  refine fill_induction (P := fun filled => filled.lookup param = solution.lookup param) rfl ?_
  intro r way hway filled hfilled
  rw [lookup_putBase_of_not_mem (hfree r way hway), hfilled]
  exact h.imp hfilled.trans fun hnone => hnone r way hway

/-- The references of the walk are those that are collected, whatever the bound is beyond the number of classes. -/
theorem basesAbove_eq_of_walk (closed : g.Closed) (ordered : g.Ordered)
    (walk : Walk g [] (g.bases context) ways) (more : Nat) :
    basesAbove g (g.entries.length + 1 + more) context = ways.filterMap List.head? := by
  have hlength : (g.lineage context).length ≤ g.entries.length := by
    cases hentry : g.get? context with
    | none =>
      rw [lineage, order?, hentry]
      exact Nat.zero_le _
    | some entry =>
      rw [lineage_of_get? hentry]
      exact (ordered context entry hentry).length_le closed hentry
  have hsum : g.entries.length + 1 + more = g.entries.length + more + 1 := by omega
  rw [hsum, walk.heads_eq closed ordered (List.Subset.refl _) (g.entries.length + more) (by omega)]
  rfl

def start (params : List String) : Solution := params.map fun name => (name, .param name)

theorem solve_eq_fill (closed : g.Closed) (ordered : g.Ordered) (walk : Walk g [] (g.bases context) ways)
    (params : List String) : solve g context params = fill g ways (start params) := by
  have hbases := basesAbove_eq_of_walk closed ordered walk 0
  rw [Nat.add_zero] at hbases
  rw [solve, hbases, List.foldl_reverse]
  rfl

section

variable (regular : g.Regular)

include regular

theorem lookup_fill_of_passed {k : String} (walk : Walk g way (g.bases name) ways)
    (hsplit : ways = front ++ (r :: way) :: back) (hr : r ∈ g.bases name)
    (hpassed : (k, .param param) ∈ g.pairs r) (hk : (fill g back solution).has k = true) :
    (fill g ways solution).lookup param = some (.param param) := by
  have harg : .param param ∈ r.args := mem_args_of_mem_pairs hpassed
  have hparam : param ∈ g.params name := regular.tidy.mem_params_of_arg hr harg
  have hfree : param ∉ g.params r.base := fun hmem => regular.not_mem_args_of_mem_params hr hmem harg
  have hput := lookup_putBase_of_passed hpassed hfree hk
  rw [hsplit, fill_append, fill_cons]
  refine (lookup_fill_of_free (fun s before hs hmem => ?_) (.inl hput)).trans hput
  have hs : s :: before ∈ ways := hsplit ▸ List.mem_append_left _ hs
  exact walk.base_ne regular.closed regular.ordered hs (regular.tidy.owner_eq hmem hparam)

theorem fill_passed (passed : Passed g params name param) (walk : Walk g way (g.bases name) ways)
    (hstart : ∀ k ∈ params, solution.has k = true) :
    (fill g ways solution).lookup param = some (.param param) := by
  induction passed generalizing way ways solution with
  | once hr hname hpair hk =>
    obtain ⟨front, back, hsplit⟩ := List.append_of_mem (walk.mem_of_mem hname hr)
    exact lookup_fill_of_passed regular walk hsplit hr hpair (has_fill back (hstart _ hk))
  | again hr hname hpair _ ih =>
    obtain ⟨front, back, hsplit⟩ := List.append_of_mem (walk.mem_of_mem hname hr)
    obtain ⟨-, inner, outer, rfl, hinner⟩ := walk.around hsplit
    have houter : ∀ k ∈ params, (fill g outer solution).has k = true :=
      fun k hk => has_fill outer (hstart k hk)
    have hfilled := ih hinner houter
    rw [← fill_append] at hfilled
    exact lookup_fill_of_passed regular walk hsplit hr hpair (has_of_lookup hfilled)

/-- At the end of a walk a parameter that is passed on stands for what the first way to its class makes of it. -/
theorem lookup_fill_of_first (walk : Walk g [] (g.bases context) ways)
    (first : First (fun s => s.base = r.base) ways (r :: way)) (passed : Passed g params r.base param)
    (hstart : ∀ k ∈ params, solution.has k = true) :
    (fill g ways solution).lookup param = some (substitute g (.param param) r) := by
  obtain ⟨front, back, hsplit, hnone⟩ := first
  have hmem : r :: way ∈ ways := hsplit ▸ List.mem_append_right _ List.mem_cons_self
  obtain ⟨hr, hname⟩ := walk.mem_bases hmem
  have hparam : param ∈ g.params r.base := passed.mem_params regular.tidy
  have hback : (fill g back solution).lookup param = some (.param param) := by
    obtain ⟨-, inner, outer, rfl, hinner⟩ := walk.around hsplit
    rw [fill_append]
    exact fill_passed regular passed hinner fun k hk => has_fill outer (hstart k hk)
  have hput := lookup_putBase_of_mem regular hr hname hparam (.inl hback)
  rw [hsplit, fill_append, fill_cons]
  refine (lookup_fill_of_free (fun s before hs hmem => ?_) (.inr fun s before hs harg => ?_)).trans hput
  · exact hnone _ hs s rfl (regular.tidy.owner_eq hmem hparam)
  · -- a reference that passes the parameter on is written on its class, to which no way has led yet
    obtain ⟨earlier, later, rfl⟩ := List.append_of_mem hs
    rw [List.append_assoc, List.cons_append] at hsplit
    have hs := (walk.mem_bases (hsplit ▸ List.mem_append_right _ List.mem_cons_self)).1
    have howner := regular.tidy.owner_eq (regular.tidy.mem_params_of_arg hs harg) hparam
    rcases (walk.around hsplit).1 with rfl | hbefore
    · exact walk.base_ne regular.closed regular.ordered hmem howner.symm
    · cases before with
      | nil => exact walk.ne_nil (hsplit ▸ List.mem_append_left _ hbefore) rfl
      | cons b before => exact hnone _ (List.mem_append_left _ hbefore) b rfl howner

end

/-- Only parameters of classes below the one from which the inference starts are followed. -/
def Keyed (g : ClassGraph) (target : String) (solution : Solution) : Prop :=
  ∀ k, solution.has k = true → ∃ name, g.Inherits name target ∧ k ∈ g.params name

theorem lookup_start (hparam : param ∈ params) : (start params).lookup param = some (.param param) := by
  induction params with
  | nil => cases hparam
  | cons first rest ih =>
    rw [start, List.map_cons, Named.lookup_cons_ite]
    split
    · next h => rw [h]
    · next hne => exact ih ((List.mem_cons.mp hparam).resolve_left hne)

theorem mem_of_has_start (h : (start params).has param = true) : param ∈ params := by
  obtain ⟨e, he, rfl⟩ := List.mem_map.mp (Named.has_iff_mem_names.mp h)
  obtain ⟨name, hname, rfl⟩ := List.mem_map.mp he
  exact hname

theorem keyed_start (hparams : params ⊆ g.params target) : Keyed g target (start params) :=
  fun _ hk => ⟨target, .refl, hparams (mem_of_has_start hk)⟩

section

variable (regular : g.Regular)

include regular

theorem Keyed.putBase (keyed : Keyed g target solution) (hr : r ∈ g.bases name) :
    Keyed g target (putBase g solution r) := by
  refine List.foldlRecOn (g.pairs r) _ keyed ?_
  rintro solution keyed ⟨k, arg⟩ he param hhas
  rcases has_of_has_putArg hhas with hhas | ⟨hk, harg⟩
  · exact keyed param hhas
  · obtain ⟨below, hinherits, hbelow⟩ := keyed k hk
    rw [regular.tidy.owner_eq hbelow (mem_params_of_mem_pairs he)] at hinherits
    refine ⟨name, .head ⟨r, hr, rfl⟩ hinherits, regular.tidy.mem_params_of_arg hr ?_⟩
    exact harg ▸ mem_args_of_mem_pairs he

theorem Keyed.lookup_putBase (keyed : Keyed g target solution) (hr : r ∈ g.bases name)
    (hparam : param ∈ g.params target) (hgives : r.gives target = false) :
    (Inference.putBase g solution r).lookup param = solution.lookup param := by
  by_cases hbase : r.base = target
  · have hnone : r.args = [] := by simpa [BaseRef.gives, hbase] using hgives
    rw [putBase_eq, pairs, hnone, List.zip_nil_right]
    rfl
  · by_cases harg : .param param ∈ r.args
    · -- it is passed on to parameters of classes above, which are not followed
      have howner : name = target := regular.tidy.owner_eq (regular.tidy.mem_params_of_arg hr harg) hparam
      rw [putBase_of_not_has fun k hk => Bool.eq_false_iff.mpr fun hhas => ?_]
      obtain ⟨below, hinherits, hbelow⟩ := keyed k hhas
      obtain ⟨e, he, rfl⟩ := List.mem_map.mp hk
      rw [regular.tidy.owner_eq hbelow (mem_params_of_mem_pairs he), ← howner] at hinherits
      exact not_inherits_of_base regular.closed regular.ordered hr hinherits
    · exact lookup_putBase_of_not_mem (fun hmem => hbase (regular.tidy.owner_eq hmem hparam)) (.inr harg)

theorem Keyed.fill (keyed : Keyed g target solution)
    (hways : ∀ r way, r :: way ∈ ways → ∃ name, r ∈ g.bases name) :
    Keyed g target (fill g ways solution) := by
  refine fill_induction (P := Keyed g target) keyed fun r way hway solution keyed => ?_
  obtain ⟨name, hr⟩ := hways r way hway
  exact keyed.putBase regular hr

theorem Keyed.lookup_fill (keyed : Keyed g target solution)
    (hways : ∀ r way, r :: way ∈ ways → ∃ name, r ∈ g.bases name) (hparam : param ∈ g.params target)
    (hgives : ∀ r way, r :: way ∈ ways → r.gives target = false) :
    (Inference.fill g ways solution).lookup param = solution.lookup param := by
  refine (fill_induction (P := fun filled => Keyed g target filled ∧
    filled.lookup param = solution.lookup param) ⟨keyed, rfl⟩ ?_).2
  rintro r way hway filled ⟨keyed, hfilled⟩
  obtain ⟨name, hr⟩ := hways r way hway
  exact ⟨keyed.putBase regular hr, (keyed.lookup_putBase regular hr hparam (hgives r way hway)).trans hfilled⟩

end

end Inference

end Accord
