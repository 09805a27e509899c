import Accord.Json.Basic
import Accord.Proofs.Named
import Mathlib.Data.List.Induction
import Mathlib.Tactic.Tauto

namespace Accord.Json

open Named (lookup_cons_ite)

variable {key k : String} {value : Json} {members : List (String × Json)}

def KeysAscending (members : List (String × Json)) : Prop :=
  members.Pairwise fun a b => a.1 < b.1

theorem lookup_insertMember (key k : String) (value : Json) (members : List (String × Json)) :
    (insertMember key value members).lookup k =
      if k = key then some value else members.lookup k := by
  induction members with
  | nil => rw [insertMember, lookup_cons_ite]
  | cons m rest ih =>
    obtain ⟨l, w⟩ := m
    unfold insertMember
    split
    · next hl =>
      subst hl
      by_cases h : k = key <;> simp only [lookup_cons_ite, h, if_true, if_false]
    · next hl =>
      split
      · rw [lookup_cons_ite]
      · rw [lookup_cons_ite, lookup_cons_ite, ih]
        by_cases h : k = key
        · rw [if_neg fun he => hl (h.symm.trans he), if_pos h, if_pos h]
        · rw [if_neg h, if_neg h]

theorem mem_keys_insertMember :
    k ∈ (insertMember key value members).map Prod.fst ↔ k = key ∨ k ∈ members.map Prod.fst := by
  induction members with
  | nil => simp [insertMember]
  | cons m rest ih =>
    obtain ⟨l, w⟩ := m
    unfold insertMember
    split
    · next hl =>
      subst hl
      simp only [List.map_cons, List.mem_cons]
      tauto
    · split
      · simp only [List.map_cons, List.mem_cons]
      · simp only [List.map_cons, List.mem_cons, ih]
        tauto

theorem mem_of_mem_insertMember {m : String × Json} (h : m ∈ insertMember key value members) :
    m = (key, value) ∨ m ∈ members := by
  induction members with
  | nil => simpa [insertMember] using h
  | cons n rest ih =>
    obtain ⟨l, w⟩ := n
    unfold insertMember at h
    split at h
    · exact (List.mem_cons.mp h).imp_right (List.mem_cons_of_mem _)
    · split at h
      · exact List.mem_cons.mp h
      · rcases List.mem_cons.mp h with rfl | h
        · exact Or.inr List.mem_cons_self
        · exact (ih h).imp_right (List.mem_cons_of_mem _)

theorem insertMember_ascending (h : KeysAscending members) :
    KeysAscending (insertMember key value members) := by
  induction members with
  | nil => exact List.pairwise_singleton _ _
  | cons m rest ih =>
    obtain ⟨l, w⟩ := m
    obtain ⟨hfirst, hrest⟩ := List.pairwise_cons.mp h
    unfold insertMember
    split
    · next hl =>
      subst hl
      exact List.pairwise_cons.mpr ⟨hfirst, hrest⟩
    · next hl =>
      split
      · next hlt =>
        refine List.pairwise_cons.mpr ⟨fun n hn => ?_, h⟩
        rcases List.mem_cons.mp hn with rfl | hn
        · exact hlt
        · exact String.lt_trans hlt (hfirst n hn)
      · next hnlt =>
        have hkey : l < key :=
          Classical.byContradiction fun hn =>
            hl (String.le_antisymm (String.not_lt.mp hn) (String.not_lt.mp hnlt))
        refine List.pairwise_cons.mpr ⟨fun n hn => ?_, ih hrest⟩
        rcases mem_of_mem_insertMember hn with rfl | hn
        · exact hkey
        · exact hfirst n hn

theorem sortMembers_concat (members : List (String × Json)) (key : String) (value : Json) :
    sortMembers (members ++ [(key, value)]) = insertMember key value (sortMembers members) := by
  simp only [sortMembers, List.foldl_append, List.foldl_cons, List.foldl_nil]

theorem lookup_sortMembers (k : String) (members : List (String × Json)) :
    (sortMembers members).lookup k = members.reverse.lookup k := by
  induction members using List.reverseRecOn with
  | nil => rfl
  | append_singleton rest n ih =>
    obtain ⟨key, value⟩ := n
    rw [sortMembers_concat, lookup_insertMember, ih, List.reverse_append, List.reverse_singleton,
      List.singleton_append, lookup_cons_ite]

theorem mem_of_mem_sortMembers {m : String × Json} (h : m ∈ sortMembers members) : m ∈ members := by
  induction members using List.reverseRecOn with
  | nil => exact absurd h List.not_mem_nil
  | append_singleton rest n ih =>
    rw [sortMembers_concat] at h
    rcases mem_of_mem_insertMember h with rfl | h
    · exact List.mem_append_right _ (List.mem_singleton.mpr rfl)
    · exact List.mem_append_left _ (ih h)

theorem mem_keys_sortMembers :
    k ∈ (sortMembers members).map Prod.fst ↔ k ∈ members.map Prod.fst := by
  induction members using List.reverseRecOn with
  | nil => rfl
  | append_singleton rest n ih =>
    rw [sortMembers_concat, mem_keys_insertMember, ih]
    simp only [List.map_append, List.map_cons, List.map_nil, List.mem_append, List.mem_singleton]
    tauto

theorem sortMembers_ascending (members : List (String × Json)) :
    KeysAscending (sortMembers members) := by
  induction members using List.reverseRecOn with
  | nil => exact List.Pairwise.nil
  | append_singleton rest n ih =>
    rw [sortMembers_concat]
    exact insertMember_ascending ih

end Accord.Json
