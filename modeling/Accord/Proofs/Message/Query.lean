import Accord.Message.Query
import Accord.Proofs.Json.Records

namespace Accord.Query

open Named (lookup_cons_ite)

variable {forced forced' : List String} {pairs members : List (String × Json)} {key k : String} {value : Json}

def valuesOf (k : String) (pairs : List (String × Json)) : List Json :=
  pairs.filterMap fun (key, value) => if key = k then some value else none

theorem mem_valuesOf : value ∈ valuesOf k pairs ↔ (k, value) ∈ pairs := by
  rw [valuesOf, List.mem_filterMap]
  constructor
  · rintro ⟨⟨key, w⟩, hmem, h⟩
    dsimp only at h
    split at h
    · next hkey =>
      cases h
      exact hkey ▸ hmem
    · cases h
  · exact fun hmem => ⟨(k, value), hmem, if_pos rfl⟩

theorem valuesOf_eq_nil_iff : valuesOf k pairs = [] ↔ k ∉ pairs.map Prod.fst := by
  rw [List.eq_nil_iff_forall_not_mem, List.mem_map]
  constructor
  · rintro h ⟨e, he, rfl⟩
    exact h e.2 (mem_valuesOf.mpr he)
  · exact fun h value hvalue => h ⟨(k, value), mem_valuesOf.mp hvalue, rfl⟩

theorem valuesOf_append (k : String) (pairs more : List (String × Json)) :
    valuesOf k (pairs ++ more) = valuesOf k pairs ++ valuesOf k more := List.filterMap_append

theorem valuesOf_concat (k : String) (pairs : List (String × Json)) (key : String) (value : Json) :
    valuesOf k (pairs ++ [(key, value)]) =
      if key = k then valuesOf k pairs ++ [value] else valuesOf k pairs := by
  rw [valuesOf_append]
  by_cases h : key = k <;> simp [valuesOf, h]

theorem getLast?_valuesOf (k : String) (pairs : List (String × Json)) :
    (valuesOf k pairs).getLast? = pairs.reverse.lookup k := by
  induction pairs using List.reverseRecOn with
  | nil => rfl
  | append_singleton pairs e ih =>
    obtain ⟨key, value⟩ := e
    rw [valuesOf_concat, List.reverse_append, List.reverse_singleton, List.singleton_append,
      lookup_cons_ite]
    by_cases h : k = key
    · rw [if_pos h.symm, if_pos h, List.getLast?_concat]
    · rw [if_neg (Ne.symm h), if_neg h, ih]

theorem getLast?_valuesOf_eq_some_iff : (valuesOf k pairs).getLast? = some value ↔
    ∃ earlier later, pairs = earlier ++ (k, value) :: later ∧ k ∉ later.map Prod.fst := by
  rw [getLast?_valuesOf, List.lookup_eq_some_iff]
  constructor
  · rintro ⟨later, earlier, hpairs, hlater⟩
    refine ⟨earlier.reverse, later.reverse, ?_, fun hk => ?_⟩
    · rw [List.reverse_eq_iff.mp hpairs, List.reverse_append, List.reverse_cons, List.append_assoc,
        List.singleton_append]
    · obtain ⟨e, he, hek⟩ := List.mem_map.mp hk
      exact bne_iff_ne.mp (hlater e (List.mem_reverse.mp he)) hek.symm
  · rintro ⟨earlier, later, rfl, hlater⟩
    refine ⟨later.reverse, earlier.reverse, ?_, fun e he => bne_iff_ne.mpr fun hk => ?_⟩
    · rw [List.reverse_append, List.reverse_cons, List.append_assoc, List.singleton_append]
    · exact hlater (List.mem_map.mpr ⟨e, List.mem_reverse.mp he, hk.symm⟩)

def holding (forced : List String) (members : List (String × Json)) (key : String) (value : Json) :
    Json :=
  if forced.contains key then
    match members.lookup key with
    | some (.array values) => .array (values ++ [value])
    | _ => .array [value]
  else value

theorem toMembers_concat (forced : List String) (pairs : List (String × Json)) (key : String)
    (value : Json) : toMembers forced (pairs ++ [(key, value)]) =
      Json.insertMember key (holding forced (toMembers forced pairs) key value)
        (toMembers forced pairs) := by
  rw [toMembers, List.foldl_append]
  rfl

/-- A forced key that holds the list of its values so far holds it with the new one behind, whatever these
values are; another key holds the new one alone. -/
theorem holding_of_lookup {values : List Json}
    (held : members.lookup key =
      if values = [] then none
      else if forced.contains key then some (.array values)
      else values.getLast?) :
    holding forced members key value =
      if forced.contains key then .array (values ++ [value]) else value := by
  unfold holding
  by_cases hforced : forced.contains key = true
  · rw [if_pos hforced, if_pos hforced, held, if_pos hforced]
    cases values with
    | nil => rfl
    | cons first rest => rfl
  · rw [if_neg hforced, if_neg hforced]

theorem lookup_toMembers (forced : List String) (pairs : List (String × Json)) (k : String) :
    (toMembers forced pairs).lookup k =
      if valuesOf k pairs = [] then none
      else if forced.contains k then some (.array (valuesOf k pairs))
      else (valuesOf k pairs).getLast? := by
  -- The statement is its own invariant: what a forced key holds is the list made so far, never one of the values.
  induction pairs using List.reverseRecOn with
  | nil => rfl
  | append_singleton pairs e ih =>
    obtain ⟨key, value⟩ := e
    rw [toMembers_concat, Json.lookup_insertMember, valuesOf_concat]
    by_cases h : k = key
    · subst h
      rw [if_pos rfl, if_pos rfl, if_neg (List.append_ne_nil_of_right_ne_nil _ (List.cons_ne_nil _ _)),
        holding_of_lookup ih, List.getLast?_concat]
      exact apply_ite some _ _ _
    · rw [if_neg h, if_neg (Ne.symm h), ih]

theorem lookup_toMembers_of_mem (h : k ∈ forced) : (toMembers forced pairs).lookup k =
    if valuesOf k pairs = [] then none else some (.array (valuesOf k pairs)) := by
  rw [lookup_toMembers, if_pos (List.contains_iff_mem.mpr h)]

theorem lookup_toMembers_of_not_mem (h : k ∉ forced) :
    (toMembers forced pairs).lookup k = (valuesOf k pairs).getLast? := by
  rw [lookup_toMembers, if_neg (mt List.contains_iff_mem.mp h)]
  split
  · next hnil => rw [hnil, List.getLast?_nil]
  · rfl

theorem mem_keys_toMembers : k ∈ (toMembers forced pairs).map Prod.fst ↔ k ∈ pairs.map Prod.fst := by
  induction pairs using List.reverseRecOn with
  | nil => rfl
  | append_singleton pairs e ih =>
    obtain ⟨key, value⟩ := e
    rw [toMembers_concat, Json.mem_keys_insertMember, ih, List.map_append, List.mem_append, or_comm]
    exact or_congr_right List.mem_singleton.symm

theorem toMembers_ascending (forced : List String) (pairs : List (String × Json)) :
    Json.KeysAscending (toMembers forced pairs) := by
  induction pairs using List.reverseRecOn with
  | nil => exact List.Pairwise.nil
  | append_singleton pairs e ih =>
    rw [toMembers_concat]
    exact Json.insertMember_ascending ih

/-- Pairs make an object with the keys that they have, each once. A forced key holds the list of all its values
in the order of the pairs, also where these values are lists; another key holds its last value. -/
theorem pairs_gathered (forced : List String) (pairs : List (String × Json)) :
    Json.KeysAscending (toMembers forced pairs) ∧
      (∀ k, k ∈ (toMembers forced pairs).map Prod.fst ↔ k ∈ pairs.map Prod.fst) ∧
      ∀ k value, (k, value) ∈ toMembers forced pairs ↔
        k ∈ forced ∧ k ∈ pairs.map Prod.fst ∧ value = .array (valuesOf k pairs) ∨
        k ∉ forced ∧ ∃ earlier later, pairs = earlier ++ (k, value) :: later ∧ k ∉ later.map Prod.fst := by
  have ascending := toMembers_ascending forced pairs
  refine ⟨ascending, fun k => mem_keys_toMembers, fun k value => ?_⟩
  have hlookup : (toMembers forced pairs).lookup k = some value ↔ (k, value) ∈ toMembers forced pairs :=
    Named.lookup_iff_mem (Named.Ascending.distinct ascending)
  rw [← hlookup]
  by_cases hforced : k ∈ forced
  · have hall : (toMembers forced pairs).lookup k = some value ↔
        k ∈ pairs.map Prod.fst ∧ value = .array (valuesOf k pairs) := by
      rw [lookup_toMembers_of_mem hforced, Option.ite_none_left_eq_some, valuesOf_eq_nil_iff, not_not,
        Option.some_inj, eq_comm]
    refine ⟨fun h => .inl ⟨hforced, hall.mp h⟩, ?_⟩
    rintro (⟨-, h⟩ | ⟨hnot, -⟩)
    · exact hall.mpr h
    · exact absurd hforced hnot
  · have hlast : (toMembers forced pairs).lookup k = some value ↔
        ∃ earlier later, pairs = earlier ++ (k, value) :: later ∧ k ∉ later.map Prod.fst := by
      rw [lookup_toMembers_of_not_mem hforced, getLast?_valuesOf_eq_some_iff]
    refine ⟨fun h => .inr ⟨hforced, hlast.mp h⟩, ?_⟩
    rintro (⟨hin, -⟩ | ⟨-, h⟩)
    · exact absurd hin hforced
    · exact hlast.mpr h

example : toMembers ["tag"] [("tag", .array [.int 1]), ("size", .array []), ("tag", .object []), ("size", .int 2)] =
    [("size", .int 2), ("tag", .array [.array [.int 1], .object []])] := rfl

theorem toMembers_eq_iff (texts : ∀ e ∈ pairs, ∃ s, e.2 = .string s) :
    toMembers forced pairs = toMembers forced' pairs ↔
      ∀ e ∈ pairs, (e.1 ∈ forced ↔ e.1 ∈ forced') := by
  constructor
  · intro h e he
    have hsome : valuesOf e.1 pairs ≠ [] := List.ne_nil_of_mem (mem_valuesOf.mpr he)
    have hlast : ∀ values, (valuesOf e.1 pairs).getLast? ≠ some (.array values) := by
      intro values hlast
      obtain ⟨s, hs⟩ := texts _ (mem_valuesOf.mp (List.mem_of_getLast? hlast))
      cases hs
    have hlookup := congrArg (List.lookup e.1) h
    by_cases hforced : e.1 ∈ forced <;> by_cases hforced' : e.1 ∈ forced'
    · exact ⟨fun _ => hforced', fun _ => hforced⟩
    · rw [lookup_toMembers_of_mem hforced, lookup_toMembers_of_not_mem hforced', if_neg hsome] at hlookup
      exact absurd hlookup.symm (hlast _)
    · rw [lookup_toMembers_of_not_mem hforced, lookup_toMembers_of_mem hforced', if_neg hsome] at hlookup
      exact absurd hlookup (hlast _)
    · exact ⟨fun h => absurd h hforced, fun h => absurd h hforced'⟩
  · intro h
    induction pairs using List.reverseRecOn with
    | nil => rfl
    | append_singleton pairs e ih =>
      obtain ⟨key, value⟩ := e
      have hpairs := ih (fun e he => texts e (List.mem_append_left _ he))
        fun e he => h e (List.mem_append_left _ he)
      have hkey : forced.contains key = forced'.contains key :=
        Bool.eq_iff_iff.mpr <| List.contains_iff_mem.trans <|
          (h _ (List.mem_append_right _ (List.mem_singleton.mpr rfl))).trans
            List.contains_iff_mem.symm
      rw [toMembers_concat, toMembers_concat, hpairs, holding, holding, hkey]

end Accord.Query
