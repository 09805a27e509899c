import Accord.Text.Order
import Mathlib.Data.List.Induction
import Mathlib.Data.List.Nodup

namespace Accord.Named

variable {α β : Type} {k name : String} {value : α} {named base : Named α}
  {entries : List (String × α)}

theorem lookup_cons_ite (k l : String) (value : α) (rest : List (String × α)) :
    ((l, value) :: rest).lookup k = if k = l then some value else rest.lookup k := by
  rw [List.lookup_cons]
  by_cases h : k = l
  · rw [if_pos h, beq_iff_eq.mpr h]
  · rw [if_neg h, beq_eq_false_iff_ne.mpr h]

theorem lookup_eq_none_iff_not_mem : entries.lookup k = none ↔ k ∉ entries.map Prod.fst := by
  rw [List.lookup_eq_none_iff, List.mem_map]
  constructor
  · rintro h ⟨e, he, rfl⟩
    exact bne_iff_ne.mp (h e he) rfl
  · intro h e he
    exact bne_iff_ne.mpr fun hk => h ⟨e, he, hk.symm⟩

theorem mem_of_lookup (h : entries.lookup k = some value) : (k, value) ∈ entries := by
  obtain ⟨before, after, rfl, -⟩ := List.lookup_eq_some_iff.mp h
  exact List.mem_append_right before List.mem_cons_self

theorem lookup_iff_mem (distinct : (entries.map Prod.fst).Nodup) :
    entries.lookup k = some value ↔ (k, value) ∈ entries := by
  refine ⟨mem_of_lookup, fun h => ?_⟩
  induction entries with
  | nil => cases h
  | cons e rest ih =>
    obtain ⟨l, v⟩ := e
    obtain ⟨hl, hrest⟩ := List.nodup_cons.mp distinct
    rw [lookup_cons_ite]
    rcases List.mem_cons.mp h with he | h
    · cases he
      rw [if_pos rfl]
    · have hk : k ≠ l := fun he => hl (he ▸ List.mem_map.mpr ⟨_, h, rfl⟩)
      rw [if_neg hk, ih hrest h]

/-- Where all entries of a name say the same, it means this. -/
theorem lookup_iff_mem_of_alike (alike : ∀ v w, (k, v) ∈ entries → (k, w) ∈ entries → v = w) :
    entries.lookup k = some value ↔ (k, value) ∈ entries := by
  refine ⟨mem_of_lookup, fun h => ?_⟩
  cases hfound : entries.lookup k with
  | none => exact absurd (List.mem_map_of_mem h) (lookup_eq_none_iff_not_mem.mp hfound)
  | some v => rw [alike v value (mem_of_lookup hfound) h]

theorem lookup_reverse (distinct : (entries.map Prod.fst).Nodup) :
    entries.reverse.lookup k = entries.lookup k := by
  have hreverse : (entries.reverse.map Prod.fst).Nodup := by
    rw [List.map_reverse]
    exact List.nodup_reverse.mpr distinct
  refine Option.ext fun value => ?_
  rw [lookup_iff_mem hreverse, lookup_iff_mem distinct, List.mem_reverse]

theorem lookup_map_value (f : String → α → β) :
    (entries.map fun (name, value) => (name, f name value)).lookup k =
      (entries.lookup k).map (f k) := by
  induction entries with
  | nil => rfl
  | cons e rest ih =>
    obtain ⟨l, v⟩ := e
    rw [List.map_cons, lookup_cons_ite, lookup_cons_ite, ih]
    by_cases h : k = l
    · rw [if_pos h, if_pos h, h, Option.map_some]
    · rw [if_neg h, if_neg h]

theorem ext_of_lookup {other : Named α} (hnames : named.names = other.names)
    (distinct : named.names.Nodup) (h : ∀ k ∈ named.names, named.lookup k = other.lookup k) :
    named = other := by
  induction named generalizing other with
  | nil => exact (List.map_eq_nil_iff.mp hnames.symm).symm
  | cons e rest ih =>
    obtain ⟨l, v⟩ := e
    obtain ⟨⟨l', v'⟩, rest', rfl, hl, hrest⟩ := List.map_eq_cons_iff.mp hnames.symm
    cases hl
    obtain ⟨hfresh, hdistinct⟩ := List.nodup_cons.mp distinct
    have hv : some v = some v' := by
      simpa only [lookup_cons_ite, if_true] using h l List.mem_cons_self
    have htail : rest = rest' := by
      refine ih hrest.symm hdistinct fun k hk => ?_
      have hne : k ≠ l := fun he => hfresh (he ▸ hk)
      simpa only [lookup_cons_ite, if_neg hne] using h k (List.mem_cons_of_mem _ hk)
    rw [Option.some.inj hv, htail]

theorem names_filterMap_sublist (f : String → α → Option β) (entries : List (String × α)) :
    ((entries.filterMap fun (name, value) =>
      (f name value).map fun out => (name, out)).map Prod.fst).Sublist (entries.map Prod.fst) := by
  induction entries with
  | nil => exact .slnil
  | cons e rest ih =>
    obtain ⟨name, value⟩ := e
    rw [List.filterMap_cons]
    dsimp only
    cases f name value with
    | none => exact ih.cons name
    | some out => exact ih.cons_cons name

theorem lookup_put (k name : String) (value : α) (named : Named α) :
    (put name value named).lookup k = if k = name then some value else named.lookup k := by
  induction named with
  | nil => rw [put, lookup_cons_ite]
  | cons e rest ih =>
    obtain ⟨l, v⟩ := e
    unfold put
    split
    · next hl =>
      subst hl
      by_cases h : k = l <;> simp only [lookup_cons_ite, h, if_true, if_false]
    · next hl =>
      rw [lookup_cons_ite, lookup_cons_ite, ih]
      by_cases h : k = l
      · rw [if_pos h, if_neg fun he => hl (h.symm.trans he), if_pos h]
      · rw [if_neg h, if_neg h]

theorem has_iff_mem_names : named.has k = true ↔ k ∈ named.names := by
  rw [has, List.any_eq_true, names, List.mem_map]
  exact exists_congr fun _ => and_congr_right fun _ => beq_iff_eq

theorem names_put_of_mem (h : name ∈ named.names) : (put name value named).names = named.names := by
  induction named with
  | nil => cases h
  | cons e rest ih =>
    obtain ⟨l, v⟩ := e
    unfold put
    split
    · rfl
    · next hl =>
      have hrest : name ∈ names rest := (List.mem_cons.mp h).resolve_left fun he => hl he.symm
      exact congrArg (l :: ·) (ih hrest)

theorem put_of_not_mem (h : name ∉ named.names) : put name value named = named ++ [(name, value)] := by
  induction named with
  | nil => rfl
  | cons e rest ih =>
    obtain ⟨l, v⟩ := e
    obtain ⟨hl, hrest⟩ := not_or.mp (List.mem_cons.not.mp h)
    unfold put
    rw [if_neg fun he => hl he.symm, ih hrest]
    rfl

theorem mem_names_put : k ∈ (put name value named).names ↔ k = name ∨ k ∈ named.names := by
  by_cases h : name ∈ named.names
  · rw [names_put_of_mem h]
    exact ⟨.inr, fun hk => hk.elim (fun he => he ▸ h) id⟩
  · rw [put_of_not_mem h, names, List.map_append, List.mem_append, or_comm]
    exact or_congr_left List.mem_singleton

theorem nodup_names_put (distinct : named.names.Nodup) : (put name value named).names.Nodup := by
  by_cases h : name ∈ named.names
  · rw [names_put_of_mem h]
    exact distinct
  · rw [put_of_not_mem h, names, List.map_append, List.map_singleton]
    refine List.nodup_append.mpr ⟨distinct, List.nodup_singleton name, fun k hk l hl hkl => ?_⟩
    have he : k = name := hkl.trans (List.mem_singleton.mp hl)
    exact h (he ▸ hk)

theorem mem_of_mem_put {e : String × α} (h : e ∈ put name value named) :
    e = (name, value) ∨ e ∈ named := by
  induction named with
  | nil => exact .inl (List.mem_singleton.mp h)
  | cons first rest ih =>
    obtain ⟨l, v⟩ := first
    unfold put at h
    split at h
    · next hl =>
      rcases List.mem_cons.mp h with rfl | h
      · exact .inl (hl ▸ rfl)
      · exact .inr (List.mem_cons_of_mem _ h)
    · rcases List.mem_cons.mp h with rfl | h
      · exact .inr List.mem_cons_self
      · exact (ih h).imp_right (List.mem_cons_of_mem _)

def putAll (entries : List (String × α)) (base : Named α) : Named α :=
  entries.foldl (fun named (name, value) => put name value named) base

theorem ofList_eq_putAll (entries : List (String × α)) : ofList entries = putAll entries [] := rfl

theorem putAll_concat (entries : List (String × α)) (name : String) (value : α) (base : Named α) :
    putAll (entries ++ [(name, value)]) base = put name value (putAll entries base) := by
  simp only [putAll, List.foldl_append, List.foldl_cons, List.foldl_nil]

theorem ofList_concat (entries : List (String × α)) (name : String) (value : α) :
    ofList (entries ++ [(name, value)]) = put name value (ofList entries) :=
  putAll_concat entries name value []

theorem lookup_putAll (k : String) (entries : List (String × α)) (base : Named α) :
    (putAll entries base).lookup k = (entries.reverse.lookup k).or (base.lookup k) := by
  induction entries using List.reverseRecOn with
  | nil => rfl
  | append_singleton entries e ih =>
    obtain ⟨name, value⟩ := e
    rw [putAll_concat, lookup_put, ih, List.reverse_append, List.reverse_singleton,
      List.singleton_append, lookup_cons_ite]
    by_cases h : k = name
    · rw [if_pos h, if_pos h, Option.some_or]
    · rw [if_neg h, if_neg h]

theorem lookup_ofList (k : String) (entries : List (String × α)) :
    (ofList entries).lookup k = entries.reverse.lookup k := by
  rw [ofList_eq_putAll, lookup_putAll, List.lookup_nil, Option.or_none]

theorem names_putAll (h : ∀ e ∈ entries, e.1 ∈ base.names) :
    (putAll entries base).names = base.names := by
  induction entries using List.reverseRecOn with
  | nil => rfl
  | append_singleton entries e ih =>
    have hnames := ih fun e he => h e (List.mem_append_left _ he)
    have he : e.1 ∈ (putAll entries base).names := by
      rw [hnames]
      exact h e (List.mem_append_right _ (List.mem_singleton.mpr rfl))
    rw [putAll_concat, names_put_of_mem he, hnames]

theorem names_put_congr {other : Named α} (h : named.names = other.names) (name : String) (v w : α) :
    (put name v named).names = (put name w other).names := by
  by_cases hmem : name ∈ named.names
  · rw [names_put_of_mem hmem, names_put_of_mem (h ▸ hmem), h]
  · have hother : name ∉ other.names := h ▸ hmem
    rw [put_of_not_mem hmem, put_of_not_mem hother, names, names, List.map_append, List.map_append]
    exact congrArg (· ++ [name]) h

theorem names_ofList_congr {entries' : List (String × α)}
    (h : entries.map Prod.fst = entries'.map Prod.fst) :
    (ofList entries).names = (ofList entries').names := by
  induction entries using List.reverseRecOn generalizing entries' with
  | nil => rw [List.map_eq_nil_iff.mp h.symm]
  | append_singleton rest e ih =>
    obtain ⟨name, v⟩ := e
    rw [List.map_append, List.map_singleton] at h
    obtain ⟨rest', last, rfl, hrest, hlast⟩ := List.map_eq_append_iff.mp h.symm
    obtain ⟨⟨name', w⟩, rfl, hname⟩ := List.map_eq_singleton_iff.mp hlast
    cases hname
    rw [ofList_concat, ofList_concat]
    exact names_put_congr (ih hrest.symm) _ v w

theorem mem_of_mem_putAll {e : String × α} (h : e ∈ putAll entries base) :
    e ∈ entries ∨ e ∈ base := by
  induction entries using List.reverseRecOn with
  | nil => exact .inr h
  | append_singleton entries last ih =>
    obtain ⟨name, value⟩ := last
    rw [putAll_concat] at h
    rcases mem_of_mem_put h with rfl | h
    · exact .inl (List.mem_append_right _ (List.mem_singleton.mpr rfl))
    · exact (ih h).imp_left (List.mem_append_left _)

theorem mem_of_mem_ofList {e : String × α} (h : e ∈ ofList entries) : e ∈ entries :=
  (mem_of_mem_putAll h).resolve_right fun h => nomatch h

theorem ofList_eq_self (distinct : (entries.map Prod.fst).Nodup) : ofList entries = entries := by
  induction entries using List.reverseRecOn with
  | nil => rfl
  | append_singleton entries e ih =>
    obtain ⟨name, value⟩ := e
    rw [List.map_append, List.map_singleton] at distinct
    obtain ⟨hentries, -, hfresh⟩ := List.nodup_append.mp distinct
    have hname : name ∉ entries.map Prod.fst := fun hm =>
      hfresh name hm name (List.mem_singleton.mpr rfl) rfl
    rw [ofList_concat, ih hentries]
    exact put_of_not_mem hname

theorem mem_names_ofList : k ∈ (ofList entries).names ↔ k ∈ entries.map Prod.fst := by
  have hnames : (ofList entries).lookup k = none ↔ k ∉ (ofList entries).names :=
    lookup_eq_none_iff_not_mem
  have hreverse : entries.reverse.lookup k = none ↔ k ∉ entries.reverse.map Prod.fst :=
    lookup_eq_none_iff_not_mem
  rw [List.map_reverse, List.mem_reverse] at hreverse
  rw [lookup_ofList] at hnames
  exact not_iff_not.mp (hnames.symm.trans hreverse)

theorem nodup_names_ofList (entries : List (String × α)) : (ofList entries).names.Nodup := by
  induction entries using List.reverseRecOn with
  | nil => exact List.nodup_nil
  | append_singleton entries e ih =>
    rw [ofList_concat]
    exact nodup_names_put ih

theorem lookup_putAll_ofList (k : String) (entries : List (String × α)) (base : Named α) :
    (putAll (ofList entries) base).lookup k = (entries.reverse.lookup k).or (base.lookup k) := by
  rw [lookup_putAll, lookup_reverse (nodup_names_ofList entries), lookup_ofList]

/-- Things under two names, by the first of these. -/
def grouped (entries : List (String × String × α)) : Named (Named α) :=
  entries.foldl (fun groups (key, name, value) =>
    put key (put name value ((groups.lookup key).getD [])) groups) []

def groupOf (key : String) (entries : List (String × String × α)) : List (String × α) :=
  entries.filterMap fun (k, e) => if k = key then some e else none

theorem groupOf_append (key : String) (entries more : List (String × String × α)) :
    groupOf key (entries ++ more) = groupOf key entries ++ groupOf key more := List.filterMap_append

theorem mem_groupOf {key : String} {entries : List (String × String × α)} {e : String × α} :
    e ∈ groupOf key entries ↔ (key, e) ∈ entries := by
  rw [groupOf, List.mem_filterMap]
  constructor
  · rintro ⟨⟨k, d⟩, hd, he⟩
    dsimp only at he
    split at he
    · next hk =>
      obtain rfl := Option.some.inj he
      exact hk ▸ hd
    · cases he
  · exact fun he => ⟨(key, e), he, if_pos rfl⟩

theorem find?_eq_lookup_map (f : String → String) (key : String) (things : List (String × α)) :
    (things.find? fun (k, _) => f k == key).map Prod.snd =
      (things.map fun (k, v) => (f k, v)).lookup key := by
  induction things with
  | nil => rfl
  | cons e rest ih =>
    obtain ⟨k, v⟩ := e
    rw [List.find?_cons, List.map_cons, lookup_cons_ite]
    by_cases h : f k = key
    · simp only [h, beq_self_eq_true, if_true, Option.map_some]
    · simp only [beq_eq_false_iff_ne.mpr h, if_neg (Ne.symm h)]
      exact ih

theorem lookup_groupOf_map (f : String → String) (key name : String)
    (things : List (String × α)) :
    (groupOf key (things.map fun (k, v) => (f k, name, v))).reverse.lookup name =
      (things.reverse.find? fun (k, _) => f k == key).map Prod.snd := by
  rw [groupOf, List.filterMap_map, ← List.filterMap_reverse]
  induction things.reverse with
  | nil => rfl
  | cons e rest ih =>
    obtain ⟨k, v⟩ := e
    rw [List.filterMap_cons, List.find?_cons]
    by_cases h : f k = key
    · simp only [Function.comp_apply, h, if_true, beq_self_eq_true, lookup_cons_ite,
        Option.map_some]
    · simp only [Function.comp_apply, if_neg h, beq_eq_false_iff_ne.mpr h]
      exact ih

theorem nodup_names_grouped (entries : List (String × String × α)) : (grouped entries).names.Nodup := by
  induction entries using List.reverseRecOn with
  | nil => exact List.nodup_nil
  | append_singleton entries e ih =>
    rw [grouped, List.foldl_append]
    exact nodup_names_put ih

/-- A group is there when it has an entry, and holds what its entries say. -/
theorem lookup_grouped (key : String) (entries : List (String × String × α)) :
    (grouped entries).lookup key =
      if groupOf key entries = [] then none else some (ofList (groupOf key entries)) := by
  induction entries using List.reverseRecOn with
  | nil => rfl
  | append_singleton entries e ih =>
    obtain ⟨k, name, value⟩ := e
    have hgrouped : grouped (entries ++ [(k, name, value)]) =
        put k (put name value (((grouped entries).lookup k).getD [])) (grouped entries) := by
      simp only [grouped, List.foldl_append, List.foldl_cons, List.foldl_nil]
    rw [hgrouped, lookup_put, groupOf_append]
    by_cases h : key = k
    · subst h
      have hlast : groupOf key [(key, name, value)] = [(name, value)] := by simp [groupOf]
      have hheld : ((grouped entries).lookup key).getD [] = ofList (groupOf key entries) := by
        rw [ih]
        split
        · next hnil => rw [hnil]; rfl
        · rfl
      rw [if_pos rfl, hheld, hlast, ofList_concat, if_neg (by simp)]
    · have hlast : groupOf key [(k, name, value)] = [] := by simp [groupOf, Ne.symm h]
      rw [if_neg h, hlast, List.append_nil, ih]

end Accord.Named
