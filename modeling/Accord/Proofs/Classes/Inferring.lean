import Accord.Classes.Inference
import Accord.Proofs.Classes.Orders
import Mathlib.Data.List.Perm.Subperm

namespace Accord

open Inference

variable {g h : ClassGraph} {name : String} {entry above : ClassEntry} {b r : BaseRef}

namespace ClassGraph

theorem Linearized.length_pos (hlinear : Linearized g name entry) : 0 < entry.order.length :=
  List.length_pos_of_mem (List.mem_of_head? hlinear.first)

theorem Linearized.length_base_lt (hlinear : Linearized g name entry) (hb : b ∈ entry.bases)
    (habove : g.get? b.base = some above) : above.order.length < entry.order.length := by
  obtain ⟨order, horder, hsub⟩ := hlinear.keeps b hb
  rw [order?_of_get? habove] at horder
  cases horder
  have hle := hsub.length_le
  have hpos := hlinear.length_pos
  rw [List.length_tail] at hle
  omega

theorem Linearized.length_le (closed : g.Closed) (hentry : g.get? name = some entry)
    (hlinear : Linearized g name entry) : entry.order.length ≤ g.entries.length := by
  have hdeclared : entry.order ⊆ g.entries.names := by
    intro other hother
    obtain ⟨above, habove⟩ := closed.declared_of_inherits hentry ((hlinear.mem_iff other).mp hother)
    exact List.mem_map_of_mem (Named.mem_of_lookup habove)
  have hle := (hlinear.nodup.subperm hdeclared).length_le
  rwa [Named.names, List.length_map] at hle

theorem params_of_get? (hentry : g.get? name = some entry) : g.params name = entry.params := by
  rw [params, hentry]
  rfl

theorem params_of_within (hwithin : g.Within h) (hentry : g.get? name = some entry) :
    h.params name = g.params name := by
  rw [params_of_get? hentry, params_of_get? (hwithin _ _ hentry)]

theorem bases_of_within (hwithin : g.Within h) (hentry : g.get? name = some entry) :
    h.bases name = g.bases name := by
  rw [bases_of_get? hentry, bases_of_get? (hwithin _ _ hentry)]

def lineage (g : ClassGraph) (name : String) : List String := (g.order? name).getD []

theorem lineage_of_get? (hentry : g.get? name = some entry) : g.lineage name = entry.order := by
  rw [lineage, order?_of_get? hentry]
  rfl

theorem lineage_of_within (hwithin : g.Within h) (hentry : g.get? name = some entry) :
    h.lineage name = g.lineage name := by
  rw [lineage_of_get? hentry, lineage_of_get? (hwithin _ _ hentry)]

theorem Ordered.mem_lineage (ordered : g.Ordered) (hentry : g.get? name = some entry)
    {other : String} : other ∈ g.lineage name ↔ g.Inherits name other := by
  rw [lineage_of_get? hentry]
  exact (ordered name entry hentry).mem_iff other

def filled (g : ClassGraph) (r : BaseRef) : List String :=
  ((g.params r.base).zip r.args).map Prod.fst

/-- The parameters to which a base, or a reference above it, gives arguments. -/
def given (g : ClassGraph) (b : BaseRef) : List String :=
  (b :: (g.lineage b.base).flatMap g.bases).flatMap g.filled

theorem Closed.declared_of_mem_bases (closed : g.Closed) (hr : r ∈ g.bases name) :
    ∃ above, g.get? r.base = some above := by
  cases hentry : g.get? name with
  | none =>
    rw [bases, hentry] at hr
    cases hr
  | some entry =>
    rw [bases_of_get? hentry] at hr
    exact closed name entry hentry r hr

theorem given_of_within (closed : g.Closed) (ordered : g.Ordered) (hwithin : g.Within h)
    (hb : g.get? b.base = some above) : h.given b = g.given b := by
  have hbases : (h.lineage b.base).flatMap h.bases = (g.lineage b.base).flatMap g.bases := by
    rw [lineage_of_within hwithin hb]
    refine List.flatMap_congr fun name hname => ?_
    obtain ⟨entry, hentry⟩ := closed.declared_of_inherits hb ((ordered.mem_lineage hb).mp hname)
    exact bases_of_within hwithin hentry
  rw [given, given, hbases]
  refine List.flatMap_congr fun r hr => ?_
  have hdeclared : ∃ entry, g.get? r.base = some entry := by
    rcases List.mem_cons.mp hr with rfl | hr
    · exact ⟨above, hb⟩
    · obtain ⟨name, -, hr⟩ := List.mem_flatMap.mp hr
      exact closed.declared_of_mem_bases hr
  obtain ⟨entry, hentry⟩ := hdeclared
  rw [filled, filled, params_of_within hwithin hentry]

end ClassGraph

namespace Inference

open ClassGraph

theorem basesAbove_of_within (closed : g.Closed) (ordered : g.Ordered) (hwithin : g.Within h)
    {fuel fuel' : Nat} (hentry : g.get? name = some entry) (hfuel : entry.order.length ≤ fuel)
    (hfuel' : entry.order.length ≤ fuel') : basesAbove h fuel' name = basesAbove g fuel name := by
  induction fuel generalizing name entry fuel' with
  | zero =>
    have hpos := (ordered name entry hentry).length_pos
    omega
  | succ fuel ih =>
    have hlinear := ordered name entry hentry
    have hpos := hlinear.length_pos
    obtain ⟨fuel', rfl⟩ : ∃ n, fuel' = n + 1 := ⟨fuel' - 1, by omega⟩
    rw [basesAbove, basesAbove, bases_of_within hwithin hentry]
    refine List.flatMap_congr fun b hb => congrArg (b :: ·) ?_
    have hb := List.mem_of_mem_filter hb
    rw [bases_of_get? hentry] at hb
    obtain ⟨above, habove⟩ := closed name entry hentry b hb
    have hlt := hlinear.length_base_lt hb habove
    exact ih habove (by omega) (by omega)

theorem mem_basesAbove {fuel : Nat} (hr : r ∈ basesAbove g fuel name) :
    ∃ above, g.Inherits name above ∧ r ∈ g.bases above := by
  induction fuel generalizing name with
  | zero => cases hr
  | succ fuel ih =>
    obtain ⟨b, hb, hr⟩ := List.mem_flatMap.mp hr
    have hb := List.mem_of_mem_filter hb
    rcases List.mem_cons.mp hr with rfl | hr
    · exact ⟨name, .refl, hb⟩
    · obtain ⟨above, hinherits, hr⟩ := ih hr
      exact ⟨above, .head ⟨b, hb, rfl⟩ hinherits, hr⟩

/-- The references that bases bring: each with those above it. -/
def refsOf (g : ClassGraph) (bases : List BaseRef) : List BaseRef :=
  (bases.filter fun b => b.base != BaseRef.genericName).flatMap fun b =>
    b :: basesAbove g g.entries.length b.base

theorem refsOf_append (g : ClassGraph) (bases more : List BaseRef) :
    refsOf g (bases ++ more) = refsOf g bases ++ refsOf g more := by
  rw [refsOf, List.filter_append, List.flatMap_append]
  rfl

theorem mem_refsOf {bases : List BaseRef} (hr : r ∈ refsOf g bases) :
    ∃ b ∈ bases, r = b ∨ ∃ name, g.Inherits b.base name ∧ r ∈ g.bases name := by
  obtain ⟨b, hb, hr⟩ := List.mem_flatMap.mp hr
  refine ⟨b, List.mem_of_mem_filter hb, ?_⟩
  exact (List.mem_cons.mp hr).imp_right mem_basesAbove

theorem declared_of_mem_refsOf (closed : g.Closed) {bases : List BaseRef}
    (declared : ∀ b ∈ bases, ∃ above, g.get? b.base = some above) (hr : r ∈ refsOf g bases) :
    ∃ entry, g.get? r.base = some entry := by
  obtain ⟨b, hb, rfl | ⟨name, -, hr⟩⟩ := mem_refsOf hr
  · exact declared r hb
  · exact closed.declared_of_mem_bases hr

theorem filled_subset_given (ordered : g.Ordered) (hb : g.get? b.base = some above)
    (hr : r ∈ refsOf g [b]) : g.filled r ⊆ g.given b := by
  obtain ⟨base, hbase, hr⟩ := mem_refsOf hr
  rw [List.mem_singleton.mp hbase] at hr
  intro param hparam
  refine List.mem_flatMap.mpr ⟨r, List.mem_cons.mpr (hr.imp_right ?_), hparam⟩
  rintro ⟨name, hinherits, hr⟩
  exact List.mem_flatMap.mpr ⟨name, (ordered.mem_lineage hb).mpr hinherits, hr⟩

variable {solution : Solution} {param : String} {refs : List BaseRef}

theorem has_put_of_has (k : String) (arg : TypeArg) (hparam : solution.has param = true) :
    (Named.put k arg solution).has param = true := by
  rw [Named.has_iff_mem_names] at hparam ⊢
  exact Named.mem_names_put.mpr (.inr hparam)

theorem has_putArg (k : String) (arg : TypeArg) (hparam : solution.has param = true) :
    (putArg solution k arg).has param = true := by
  unfold putArg
  split
  · cases arg with
    | param name => exact has_put_of_has _ _ (has_put_of_has _ _ hparam)
    | concrete s => exact has_put_of_has _ _ hparam
  · exact hparam

theorem has_putBase (hparam : solution.has param = true) : (putBase g solution r).has param = true := by
  unfold putBase
  induction (g.params r.base).zip r.args generalizing solution with
  | nil => exact hparam
  | cons pair rest ih => exact ih (has_putArg _ _ hparam)

theorem has_foldl_putBase (hparam : solution.has param = true) :
    (refs.foldl (putBase g) solution).has param = true := by
  induction refs generalizing solution with
  | nil => exact hparam
  | cons r rest ih => exact ih (has_putBase hparam)

theorem putBase_of_not_has (hfree : ∀ param ∈ g.filled r, solution.has param = false) :
    putBase g solution r = solution := by
  unfold putBase
  unfold filled at hfree
  generalize (g.params r.base).zip r.args = pairs at hfree ⊢
  induction pairs with
  | nil => rfl
  | cons pair rest ih =>
    obtain ⟨param, arg⟩ := pair
    obtain ⟨hparam, hrest⟩ := List.forall_mem_cons.mp hfree
    have hsame : putArg solution param arg = solution := if_neg (Bool.eq_false_iff.mp hparam)
    rw [List.foldl_cons]
    dsimp only
    rw [hsame]
    exact ih hrest

theorem foldl_putBase_of_not_has (hfree : ∀ r ∈ refs, ∀ param ∈ g.filled r,
    solution.has param = false) :
    refs.foldl (putBase g) solution = solution := by
  induction refs with
  | nil => rfl
  | cons r rest ih =>
    obtain ⟨hr, hrest⟩ := List.forall_mem_cons.mp hfree
    rw [List.foldl_cons, putBase_of_not_has hr]
    exact ih hrest

theorem putBase_of_within (hwithin : g.Within h) (hr : g.get? r.base = some entry)
    (solution : Solution) : putBase h solution r = putBase g solution r := by
  rw [putBase, putBase, params_of_within hwithin hr]

/-- What stands for parameters in a class with these bases. -/
def solveFor (g : ClassGraph) (bases : List BaseRef) (params : List String) : Solution :=
  (refsOf g bases).reverse.foldl (putBase g) (params.map fun name => (name, .param name))

theorem solve_eq_solveFor (closed : g.Closed) (ordered : g.Ordered) (hclosed : h.Closed)
    (hordered : h.Ordered) (hwithin : g.Within h) (hentry : h.get? name = some entry)
    (declared : ∀ b ∈ entry.bases, ∃ above, g.get? b.base = some above) (params : List String) :
    solve h name params = solveFor g entry.bases params := by
  have hrefs : basesAbove h (h.entries.length + 1) name = refsOf g entry.bases := by
    rw [basesAbove, refsOf, bases_of_get? hentry]
    refine List.flatMap_congr fun b hb => congrArg (b :: ·) ?_
    obtain ⟨above, habove⟩ := declared b (List.mem_of_mem_filter hb)
    have hlater := hwithin _ _ habove
    exact basesAbove_of_within closed ordered hwithin habove
      ((ordered _ _ habove).length_le closed habove) ((hordered _ _ hlater).length_le hclosed hlater)
  rw [solve, solveFor, hrefs]
  refine List.foldl_ext _ _ _ fun solution r hr => ?_
  obtain ⟨entry, hentry⟩ := declared_of_mem_refsOf closed declared (List.mem_reverse.mp hr)
  exact putBase_of_within hwithin hentry solution

/-- One more base changes nothing if it gives arguments to none of the parameters that are followed. -/
theorem solveFor_insert (ordered : g.Ordered) {front back : List BaseRef} {extra : BaseRef}
    (hextra : g.get? extra.base = some above) {params : List String}
    (hfree : ∀ param ∈ g.given extra, (solveFor g (front ++ back) params).has param = false) :
    solveFor g (front ++ extra :: back) params = solveFor g (front ++ back) params := by
  rw [solveFor, refsOf_append, List.reverse_append, List.foldl_append] at hfree
  have hsplit : refsOf g (front ++ extra :: back) =
      refsOf g front ++ (refsOf g [extra] ++ refsOf g back) := by
    rw [← refsOf_append, ← refsOf_append]
    rfl
  rw [solveFor, solveFor, hsplit, refsOf_append]
  simp only [List.reverse_append, List.foldl_append]
  congr 1
  -- the references of the base are put in behind those of the bases after it
  refine foldl_putBase_of_not_has fun r hr param hparam => ?_
  have hend := hfree param (filled_subset_given ordered hextra (List.mem_reverse.mp hr) hparam)
  rw [Bool.eq_false_iff] at hend ⊢
  exact fun hhas => hend (has_foldl_putBase hhas)

end Inference

end Accord
