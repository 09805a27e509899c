import Accord.Classes.Graph
import Mathlib.Data.List.Nodup

namespace Accord.Linear

variable {sequences : List (List String)} {head : String} {order : List String}

/-- A list without repetitions that keeps the order of all sequences. -/
structure Extends (sequences : List (List String)) (order : List String) : Prop where
  nodup : order.Nodup
  keeps : ∀ s ∈ sequences, s.Sublist order

theorem mem_of_next? (h : next? sequences = some head) : ∃ s ∈ sequences, s.head? = some head :=
  List.mem_filterMap.mp (List.mem_of_find?_eq_some h)

theorem not_mem_tail_of_next? (h : next? sequences = some head) :
    ∀ s ∈ sequences, head ∉ s.tail := by
  have hfree := List.find?_some h
  rw [Bool.not_eq_true', List.any_eq_false] at hfree
  intro s hs hmem
  exact hfree s hs (List.contains_iff_mem.mpr hmem)

theorem next?_isSome (hs : ∃ s ∈ sequences, s.head? = some head)
    (free : ∀ s ∈ sequences, head ∉ s.tail) : (next? sequences).isSome := by
  refine List.find?_isSome.mpr ⟨head, List.mem_filterMap.mpr hs, ?_⟩
  rw [Bool.not_eq_true', List.any_eq_false]
  intro s hs hmem
  exact free s hs (List.contains_iff_mem.mp hmem)

theorem dropHead_eq_filter {s : List String} (h : head ∉ s.tail) :
    dropHead head s = s.filter (· != head) := by
  have keep : ∀ t : List String, head ∉ t → t.filter (· != head) = t := fun t ht =>
    List.filter_eq_self.mpr fun x hx => bne_iff_ne.mpr fun he => ht (he ▸ hx)
  unfold dropHead
  split
  · next hhead =>
    obtain ⟨t, rfl⟩ := List.head?_eq_some_iff.mp hhead
    rw [List.filter_cons_of_neg (by simp), keep t h]
    rfl
  · next hhead =>
    refine (keep s fun hmem => ?_).symm
    cases s with
    | nil => cases hmem
    | cons x t =>
      rcases List.mem_cons.mp hmem with rfl | hmem
      · exact hhead rfl
      · exact h hmem

theorem mem_dropHeads (h : next? sequences = some head) {x : String} :
    (∃ s ∈ dropHeads head sequences, x ∈ s) ↔ x ≠ head ∧ ∃ s ∈ sequences, x ∈ s := by
  have hfree := not_mem_tail_of_next? h
  constructor
  · rintro ⟨_, hdropped, hx⟩
    obtain ⟨s, hs, rfl⟩ := List.mem_map.mp hdropped
    rw [dropHead_eq_filter (hfree s hs), List.mem_filter, bne_iff_ne] at hx
    exact ⟨hx.2, s, hs, hx.1⟩
  · rintro ⟨hne, s, hs, hx⟩
    refine ⟨dropHead head s, List.mem_map_of_mem hs, ?_⟩
    rw [dropHead_eq_filter (hfree s hs), List.mem_filter, bne_iff_ne]
    exact ⟨hx, hne⟩

theorem extends_cons (hrest : Extends (dropHeads head sequences) order) (hmem : head ∉ order) :
    Extends sequences (head :: order) := by
  refine ⟨List.nodup_cons.mpr ⟨hmem, hrest.nodup⟩, fun s hs => ?_⟩
  have hkept := hrest.keeps _ (List.mem_map_of_mem hs)
  unfold dropHead at hkept
  split at hkept
  · next hhead =>
    obtain ⟨t, rfl⟩ := List.head?_eq_some_iff.mp hhead
    exact hkept.cons_cons head
  · exact hkept.cons head

theorem mem_merge?_iff (h : merge? sequences = some order) (x : String) :
    x ∈ order ↔ ∃ s ∈ sequences, x ∈ s := by
  fun_induction merge? sequences generalizing order with
  | case1 sequences head hnext ih =>
    obtain ⟨rest, hrest, rfl⟩ := Option.map_eq_some_iff.mp h
    have hx := ih hrest
    rw [mem_dropHeads hnext] at hx
    rw [List.mem_cons, hx]
    constructor
    · rintro (rfl | ⟨-, hs⟩)
      · obtain ⟨s, hs, hhead⟩ := mem_of_next? hnext
        exact ⟨s, hs, List.mem_of_head? hhead⟩
      · exact hs
    · intro hs
      by_cases he : x = head
      · exact .inl he
      · exact .inr ⟨he, hs⟩
  | case2 sequences hnext hempty =>
    cases h
    refine ⟨fun h => (nomatch h), fun ⟨s, hs, hx⟩ => ?_⟩
    rw [List.isEmpty_iff.mp (List.all_eq_true.mp hempty s hs)] at hx
    exact hx
  | case3 => cases h

theorem extends_of_merge? (h : merge? sequences = some order) : Extends sequences order := by
  fun_induction merge? sequences generalizing order with
  | case1 sequences head hnext ih =>
    obtain ⟨rest, hrest, rfl⟩ := Option.map_eq_some_iff.mp h
    have hmem : head ∉ rest := by
      rw [mem_merge?_iff hrest, mem_dropHeads hnext]
      exact fun hne => hne.1 rfl
    exact extends_cons (ih hrest) hmem
  | case2 sequences hnext hempty =>
    cases h
    refine ⟨List.nodup_nil, fun s hs => ?_⟩
    rw [List.isEmpty_iff.mp (List.all_eq_true.mp hempty s hs)]
  | case3 => cases h

theorem next?_isSome_of_extends (h : Extends sequences order) (hsome : ∃ s ∈ sequences, s ≠ []) :
    (next? sequences).isSome := by
  induction order with
  | nil =>
    obtain ⟨s, hs, hne⟩ := hsome
    exact absurd (List.sublist_nil.mp (h.keeps s hs)) hne
  | cons x rest ih =>
    obtain ⟨hx, hrest⟩ := List.nodup_cons.mp h.nodup
    by_cases hnamed : ∃ s ∈ sequences, x ∈ s
    · have hparts : ∀ s ∈ sequences, x ∈ s → ∃ t, s = x :: t := by
        intro s hs hmem
        cases h.keeps s hs with
        | cons _ hsub => exact absurd (hsub.subset hmem) hx
        | cons_cons _ hsub => exact ⟨_, rfl⟩
      obtain ⟨s, hs, hmem⟩ := hnamed
      obtain ⟨t, rfl⟩ := hparts s hs hmem
      refine next?_isSome ⟨_, hs, rfl⟩ fun s hs hmem => ?_
      cases h.keeps s hs with
      | cons _ hsub => exact hx (hsub.subset (List.mem_of_mem_tail hmem))
      | cons_cons _ hsub => exact hx (hsub.subset hmem)
    · refine ih ⟨hrest, fun s hs => ?_⟩
      cases h.keeps s hs with
      | cons _ hsub => exact hsub
      | cons_cons _ _ => exact absurd ⟨_, hs, List.mem_cons_self⟩ hnamed

theorem Extends.dropHeads (h : Extends sequences order) (hnext : next? sequences = some head) :
    Extends (dropHeads head sequences) (order.filter (· != head)) := by
  refine ⟨h.nodup.filter _, fun _ hdropped => ?_⟩
  obtain ⟨s, hs, rfl⟩ := List.mem_map.mp hdropped
  rw [dropHead_eq_filter (not_mem_tail_of_next? hnext s hs)]
  exact (h.keeps s hs).filter _

theorem merge?_isSome_iff : (merge? sequences).isSome ↔ ∃ order, Extends sequences order := by
  constructor
  · intro h
    obtain ⟨order, horder⟩ := Option.isSome_iff_exists.mp h
    exact ⟨order, extends_of_merge? horder⟩
  · rintro ⟨order, h⟩
    fun_induction merge? sequences generalizing order with
    | case1 sequences head hnext ih =>
      rw [Option.isSome_map]
      exact ih _ (h.dropHeads hnext)
    | case2 => rfl
    | case3 sequences hnext hempty =>
      have hsome : ∃ s ∈ sequences, s ≠ [] := by
        simpa using hempty
      have hfound := next?_isSome_of_extends h hsome
      rw [hnext] at hfound
      cases hfound

end Accord.Linear
