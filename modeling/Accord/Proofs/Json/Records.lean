import Accord.Json.Record
import Accord.Proofs.Json.Members
import Mathlib.Data.List.Perm.Basic
import Mathlib.Data.List.Sort

namespace Accord

namespace Named

variable {α β : Type} {entries xs ys : List (String × α)} {k : String}

def Ascending (entries : List (String × α)) : Prop := entries.Pairwise fun a b => a.1 < b.1

def arranged (entries : List (String × α)) : Named α :=
  entries.mergeSort fun a b => decide (a.1 ≤ b.1)

theorem arranged_perm (entries : List (String × α)) : (arranged entries).Perm entries :=
  List.mergeSort_perm _ _

theorem nodup_names_arranged (distinct : (entries.map Prod.fst).Nodup) :
    ((arranged entries).map Prod.fst).Nodup :=
  ((arranged_perm entries).map Prod.fst).nodup_iff.mpr distinct

theorem arranged_ascending (distinct : (entries.map Prod.fst).Nodup) :
    Ascending (arranged entries) := by
  have hsorted : (arranged entries).Pairwise fun a b => decide (a.1 ≤ b.1) = true := by
    refine List.pairwise_mergeSort (fun a b c hab hbc => ?_) (fun a b => ?_) entries
    · exact decide_eq_true (String.le_trans (of_decide_eq_true hab) (of_decide_eq_true hbc))
    · rw [Bool.or_eq_true, decide_eq_true_iff, decide_eq_true_iff]
      exact String.le_total a.1 b.1
  have hdistinct := List.pairwise_map.mp (nodup_names_arranged distinct)
  refine hsorted.imp₂ (fun a b hle hne => ?_) hdistinct
  by_contra hnlt
  exact hne (String.le_antisymm (of_decide_eq_true hle) (String.not_lt.mp hnlt))

theorem eq_of_perm_of_ascending (h : xs.Perm ys) (hxs : Ascending xs) (hys : Ascending ys) :
    xs = ys := by
  refine h.eq_of_pairwise (fun a b _ _ hab hba => ?_) hxs hys
  exact absurd (String.lt_trans hab hba) (String.lt_irrefl _)

theorem Ascending.distinct (h : Ascending entries) : (entries.map Prod.fst).Nodup := by
  refine List.pairwise_map.mpr (List.Pairwise.imp (fun {a b} hlt he => ?_) h)
  rw [he] at hlt
  exact String.lt_irrefl _ hlt

theorem Ascending.ext_of_lookup (hxs : Ascending xs) (hys : Ascending ys) (h : ∀ k, xs.lookup k = ys.lookup k) :
    xs = ys := by
  refine eq_of_perm_of_ascending ?_ hxs hys
  refine (List.perm_ext_iff_of_nodup hxs.distinct.of_map hys.distinct.of_map).mpr fun e => ?_
  rw [← lookup_iff_mem hxs.distinct, ← lookup_iff_mem hys.distinct, h]

theorem arranged_eq_self (h : Ascending entries) : arranged entries = entries :=
  eq_of_perm_of_ascending (arranged_perm entries) (arranged_ascending h.distinct) h

theorem arranged_eq_of_perm (distinct : (xs.map Prod.fst).Nodup) (h : xs.Perm ys) :
    arranged xs = arranged ys := by
  have hperm : (arranged xs).Perm (arranged ys) :=
    (arranged_perm xs).trans (h.trans (arranged_perm ys).symm)
  exact eq_of_perm_of_ascending hperm (arranged_ascending distinct)
    (arranged_ascending ((h.map Prod.fst).nodup_iff.mp distinct))

theorem arranged_map (f : α → β) (entries : List (String × α)) :
    arranged (entries.map fun e => (e.1, f e.2)) = (arranged entries).map fun e => (e.1, f e.2) :=
  (List.map_mergeSort (f := fun e : String × α => (e.1, f e.2)) fun _ _ _ _ => rfl).symm

theorem lookup_arranged (distinct : (entries.map Prod.fst).Nodup) (k : String) :
    (arranged entries).lookup k = entries.lookup k := by
  refine Option.ext fun value => ?_
  rw [lookup_iff_mem (nodup_names_arranged distinct), lookup_iff_mem distinct,
    (arranged_perm entries).mem_iff]

theorem lookup_filter (p : String → Bool) (entries : List (String × α)) (k : String) :
    (entries.filter fun e => p e.1).lookup k = if p k then entries.lookup k else none := by
  induction entries with
  | nil => simp
  | cons e rest ih =>
    obtain ⟨l, v⟩ := e
    rw [List.filter_cons, lookup_cons_ite]
    by_cases hl : p l = true
    · rw [if_pos hl, lookup_cons_ite, ih]
      by_cases hk : k = l
      · rw [if_pos hk, if_pos hk, hk, if_pos hl]
      · rw [if_neg hk, if_neg hk]
    · rw [if_neg hl, ih]
      by_cases hk : k = l
      · rw [if_neg (hk ▸ hl), if_neg (hk ▸ hl)]
      · rw [if_neg hk]

end Named

namespace Json

open Named (arranged Ascending)

variable {members : List (String × Json)} {k : String} {v : Json}

theorem sortMembers_eq_arranged (distinct : (members.map Prod.fst).Nodup) :
    sortMembers members = arranged members := by
  have hascending : Ascending (sortMembers members) := sortMembers_ascending members
  have hmem : ∀ e, e ∈ sortMembers members ↔ e ∈ members := by
    refine fun e => ⟨mem_of_mem_sortMembers, fun he => Named.mem_of_lookup ?_⟩
    rw [lookup_sortMembers, Named.lookup_reverse distinct]
    exact (Named.lookup_iff_mem distinct).mpr he
  have hnodup : (sortMembers members).Nodup := List.Nodup.of_map _ hascending.distinct
  have hperm := (List.perm_ext_iff_of_nodup hnodup (List.Nodup.of_map _ distinct)).mpr hmem
  exact Named.eq_of_perm_of_ascending (hperm.trans (Named.arranged_perm members).symm) hascending
    (Named.arranged_ascending distinct)

theorem record?_ofMembers (names : List String) (distinct : (members.map Prod.fst).Nodup) :
    ∃ fields, (ofMembers members).record? names = some fields ∧
      ∀ k ∈ names, fields.lookup k = members.lookup k := by
  have hnodup : ((sortMembers members).map Prod.fst).Nodup := by
    rw [sortMembers_eq_arranged distinct]
    exact Named.nodup_names_arranged distinct
  refine ⟨_, if_pos ((List.filter_sublist.map Prod.fst).nodup hnodup), fun k hk => ?_⟩
  rw [Named.lookup_filter (names.contains ·), if_pos (List.contains_iff_mem.mpr hk),
    sortMembers_eq_arranged distinct, Named.lookup_arranged distinct]

theorem depth_le_membersDepth {e : String × Json} (h : e ∈ members) :
    e.2.depth ≤ membersDepth members := by
  induction members with
  | nil => cases h
  | cons first rest ih =>
    obtain ⟨key, v⟩ := first
    rw [membersDepth]
    rcases List.mem_cons.mp h with rfl | h
    · exact Nat.le_max_left _ _
    · exact (ih h).trans (Nat.le_max_right _ _)

theorem depth_lt_of_mem_items {items : List Json} (h : v ∈ items) : v.depth < (array items).depth := by
  have hle : v.depth ≤ itemsDepth items := by
    induction items with
    | nil => cases h
    | cons first rest ih =>
      rw [itemsDepth]
      rcases List.mem_cons.mp h with rfl | h
      · exact Nat.le_max_left _ _
      · exact (ih h).trans (Nat.le_max_right _ _)
  rw [depth]
  omega

theorem depth_lt_of_mem_members {e : String × Json} (distinct : (members.map Prod.fst).Nodup)
    (h : e ∈ members) : e.2.depth < (ofMembers members).depth := by
  have hsorted : e ∈ sortMembers members := by
    rw [sortMembers_eq_arranged distinct]
    exact (Named.arranged_perm members).mem_iff.mpr h
  have hle := depth_le_membersDepth hsorted
  rw [ofMembers, depth]
  omega

end Json

end Accord
