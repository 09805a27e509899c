import Accord.Proofs.Json.Records
import Accord.Settings.Layer

namespace Accord.Json

variable {key k : String} {v base layer : Json} {members : List (String × Json)}

/-- Every object within the value holds its members in the order of their keys. -/
inductive InOrder : Json → Prop
  | null : InOrder .null
  | bool (b : Bool) : InOrder (.bool b)
  | int (n : Int) : InOrder (.int n)
  | float (x : Binary64) : InOrder (.float x)
  | string (s : String) : InOrder (.string s)
  | array {items : List Json} : (∀ v ∈ items, InOrder v) → InOrder (.array items)
  | object {members : List (String × Json)} :
      KeysAscending members → (∀ e ∈ members, InOrder e.2) → InOrder (.object members)

theorem InOrder.keysAscending (h : (Json.object members).InOrder) : KeysAscending members := by
  cases h with
  | object ascending _ => exact ascending

theorem InOrder.of_mem {e : String × Json} (h : (Json.object members).InOrder) (he : e ∈ members) : e.2.InOrder := by
  cases h with
  | object _ inner => exact inner e he

theorem InOrder.distinct (h : (Json.object members).InOrder) : (members.map Prod.fst).Nodup :=
  Named.Ascending.distinct h.keysAscending

theorem inOrder_sortMembers (h : ∀ e ∈ members, e.2.InOrder) : (object (sortMembers members)).InOrder :=
  .object (sortMembers_ascending members) fun e he => h e (mem_of_mem_sortMembers he)

mutual

theorem inOrder_normalize : ∀ v : Json, v.normalize.InOrder
  | .null => .null
  | .bool b => .bool b
  | .int n => .int n
  | .float x => .float x
  | .string s => .string s
  | .array items => .array (inOrder_normalizeItems items)
  | .object members => inOrder_sortMembers (inOrder_normalizeMembers members)
termination_by structural v => v

theorem inOrder_normalizeItems : ∀ (items : List Json), ∀ v ∈ normalizeItems items, v.InOrder
  | [] => fun _ h => nomatch h
  | x :: xs => List.forall_mem_cons.mpr ⟨inOrder_normalize x, inOrder_normalizeItems xs⟩
termination_by structural items => items

theorem inOrder_normalizeMembers :
    ∀ (members : List (String × Json)), ∀ e ∈ normalizeMembers members, e.2.InOrder
  | [] => fun _ h => nomatch h
  | (_, v) :: ms => List.forall_mem_cons.mpr ⟨inOrder_normalize v, inOrder_normalizeMembers ms⟩
termination_by structural members => members

end

theorem inOrder_of_read {text : Bytes} (h : read text = .ok v) : v.InOrder := by
  unfold read at h
  cases hwritten : readWritten text with
  | error e => rw [hwritten] at h; cases h
  | ok w =>
    rw [hwritten] at h
    cases h
    exact inOrder_normalize w

/-- A value on top of another one, if there is one. -/
def onTop : Option Json → Json → Json
  | some base, v => base.merge v
  | none, v => v

theorem merge_objects (members layer : List (String × Json)) :
    (object members).merge (object layer) = object (mergeMembers members layer) := rfl

theorem mergeMembers_cons (members layer : List (String × Json)) (key : String) (v : Json) :
    mergeMembers members ((key, v) :: layer) =
      mergeMembers (insertMember key (onTop (members.lookup key) v) members) layer := by
  rw [mergeMembers]
  cases members.lookup key <;> rfl

theorem merge_of_not_object (h : ∀ members, base ≠ object members) (v : Json) : base.merge v = v := by
  cases base <;> first | exact absurd rfl (h _) | (cases v <;> rfl)

theorem lookup_mergeMembers (k : String) {layer : List (String × Json)} (distinct : (layer.map Prod.fst).Nodup)
    (members : List (String × Json)) : (mergeMembers members layer).lookup k =
      match layer.lookup k with
      | some v => some (onTop (members.lookup k) v)
      | none => members.lookup k := by
  induction layer generalizing members with
  | nil => rfl
  | cons e layer ih =>
    obtain ⟨key, v⟩ := e
    obtain ⟨hfresh, hrest⟩ := List.nodup_cons.mp distinct
    rw [mergeMembers_cons, ih hrest, lookup_insertMember, Named.lookup_cons_ite]
    by_cases h : k = key
    · subst h
      rw [if_pos rfl, if_pos rfl, Named.lookup_eq_none_iff_not_mem.mpr hfresh]
    · rw [if_neg h, if_neg h]

theorem mem_keys_mergeMembers {layer : List (String × Json)} (members : List (String × Json)) :
    k ∈ (mergeMembers members layer).map Prod.fst ↔ k ∈ members.map Prod.fst ∨ k ∈ layer.map Prod.fst := by
  induction layer generalizing members with
  | nil => exact (or_iff_left List.not_mem_nil).symm
  | cons e layer ih =>
    obtain ⟨key, v⟩ := e
    rw [mergeMembers_cons, ih, mem_keys_insertMember, List.map_cons, List.mem_cons]
    tauto

theorem onTop_object (base : Option Json) (inner : List (String × Json)) :
    ∃ merged, onTop base (.object inner) = .object merged ∧ ∀ e ∈ inner, e.1 ∈ merged.map Prod.fst := by
  have hself : ∀ e ∈ inner, e.1 ∈ inner.map Prod.fst := fun e he => List.mem_map_of_mem he
  cases base with
  | none => exact ⟨inner, rfl, hself⟩
  | some base =>
    cases base with
    | object lower => exact ⟨_, rfl, fun e he => (mem_keys_mergeMembers lower).mpr (.inr (hself e he))⟩
    | _ => exact ⟨inner, rfl, hself⟩

theorem inOrder_insertMember (h : (object members).InOrder) (hv : v.InOrder) :
    (object (insertMember key v members)).InOrder := by
  refine .object (insertMember_ascending h.keysAscending) fun e he => ?_
  rcases mem_of_mem_insertMember he with rfl | he
  · exact hv
  · exact h.of_mem he

mutual

theorem InOrder.merge : ∀ {base layer : Json}, base.InOrder → layer.InOrder → (base.merge layer).InOrder
  | base, .null, _, h => by cases base <;> exact h
  | base, .bool _, _, h => by cases base <;> exact h
  | base, .int _, _, h => by cases base <;> exact h
  | base, .float _, _, h => by cases base <;> exact h
  | base, .string _, _, h => by cases base <;> exact h
  | base, .array _, _, h => by cases base <;> exact h
  | base, .object layer, hbase, h => by
    cases base with
    | object members => exact inOrder_mergeMembers hbase fun e he => h.of_mem he
    | _ => exact h
termination_by structural _ layer => layer

theorem inOrder_mergeMembers : ∀ {members layer : List (String × Json)}, (object members).InOrder →
    (∀ e ∈ layer, e.2.InOrder) → (object (mergeMembers members layer)).InOrder
  | _, [], h, _ => h
  | members, (key, v) :: layer, h, hlayer => by
    obtain ⟨hv, hrest⟩ := List.forall_mem_cons.mp hlayer
    rw [mergeMembers_cons]
    refine inOrder_mergeMembers (inOrder_insertMember h ?_) hrest
    cases hknown : members.lookup key with
    | none => exact hv
    | some known => exact InOrder.merge (h.of_mem (Named.mem_of_lookup hknown)) hv
termination_by structural _ layer => layer

end

end Accord.Json
