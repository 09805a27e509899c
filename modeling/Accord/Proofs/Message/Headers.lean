import Accord.Message.Response
import Accord.Proofs.Contract.Building
import Accord.Proofs.Named
import Accord.Proofs.Text

namespace Accord

namespace Message

theorem toNat_lt_of_isTokenChar {c : Char} (h : isTokenChar c = true) : c.toNat < 128 := by
  rcases Bool.or_eq_true_iff.mp h with h | h
  · rcases Bool.or_eq_true_iff.mp h with hletter | hdigit
    · rcases Bool.or_eq_true_iff.mp hletter with hupper | hlower
      · have hlast : c.toNat ≤ 90 := (of_decide_eq_true hupper).2
        omega
      · have hlast : c.toNat ≤ 122 := of_decide_eq_true (Bool.and_eq_true_iff.mp hlower).2
        omega
    · have hlast : c.toNat ≤ 57 := of_decide_eq_true (Bool.and_eq_true_iff.mp hdigit).2
      omega
  · have hsigns : ∀ d ∈ "!#$%&'*+-.^_`|~".toList, d.toNat < 128 := by simp
    exact hsigns c (List.contains_iff_mem.mp h)

theorem headerName?_eq_some_iff {s name : String} :
    headerName? s = some name ↔
      (isToken s = true ∧ s.length < 65536) ∧ Text.asciiLower s = name := by
  simp [headerName?]

theorem isAscii_of_headerName? {s name : String} (h : headerName? s = some name) :
    Text.IsAscii s := by
  intro c hc
  have htoken := (headerName?_eq_some_iff.mp h).1.1
  exact toNat_lt_of_isTokenChar (List.all_eq_true.mp (Bool.and_eq_true_iff.mp htoken).2 c hc)

end Message

namespace Headers

variable {h : Headers} {k name : String} {value : Bytes}

theorem mem_names : k ∈ h.names ↔ k ∈ h.entries.map Prod.fst := List.mem_eraseDups

theorem mem_entries_set {e : String × Bytes} :
    e ∈ (h.set name value).entries ↔ (e ∈ h.entries ∧ e.1 ≠ name) ∨ e = (name, value) := by
  simp [set]

theorem mem_names_set : k ∈ (h.set name value).names ↔ k = name ∨ k ∈ h.names := by
  simp only [mem_names, List.mem_map, mem_entries_set]
  constructor
  · rintro ⟨e, ⟨he, -⟩ | rfl, rfl⟩
    · exact .inr ⟨e, he, rfl⟩
    · exact .inl rfl
  · rintro (rfl | ⟨e, he, rfl⟩)
    · exact ⟨_, .inr rfl, rfl⟩
    · by_cases hname : e.1 = name
      · exact ⟨_, .inr rfl, hname.symm⟩
      · exact ⟨e, .inl ⟨he, hname⟩, rfl⟩

theorem nodup_set (distinct : (h.entries.map Prod.fst).Nodup) :
    ((h.set name value).entries.map Prod.fst).Nodup := by
  have hset : (h.set name value).entries =
      h.entries.filter (fun e => e.1 != name) ++ [(name, value)] := rfl
  have hkept : ((h.entries.filter fun e => e.1 != name).map Prod.fst).Nodup :=
    distinct.sublist (List.filter_sublist.map Prod.fst)
  rw [hset, List.map_append, List.map_singleton]
  refine List.nodup_append.mpr ⟨hkept, List.nodup_singleton name, fun k hk l hl hkl => ?_⟩
  obtain ⟨e, he, rfl⟩ := List.mem_map.mp hk
  exact bne_iff_ne.mp (List.mem_filter.mp he).2 (hkl.trans (List.mem_singleton.mp hl))

theorem get?_eq_lookup (h : Headers) (k : String) :
    h.get? k = h.entries.lookup (Text.asciiLower k) := by
  rw [get?, getAll]
  induction h.entries with
  | nil => rfl
  | cons e rest ih =>
    obtain ⟨l, v⟩ := e
    rw [Named.lookup_cons_ite, List.filter_cons, ← ih]
    by_cases hk : Text.asciiLower k = l
    · simp [hk]
    · simp [hk, Ne.symm hk]

theorem getAll_eq_toList (distinct : (h.entries.map Prod.fst).Nodup) (k : String) :
    h.getAll k = (h.entries.lookup (Text.asciiLower k)).toList := by
  obtain ⟨entries⟩ := h
  simp only [getAll]
  induction entries with
  | nil => rfl
  | cons e rest ih =>
    obtain ⟨l, v⟩ := e
    obtain ⟨hfresh, hrest⟩ := List.nodup_cons.mp distinct
    rw [Named.lookup_cons_ite, List.filter_cons]
    by_cases hk : Text.asciiLower k = l
    · have habsent : rest.lookup l = none := Named.lookup_eq_none_iff_not_mem.mpr hfresh
      simpa [hk, habsent] using ih hrest
    · simpa [hk, Ne.symm hk] using ih hrest

def setAll (entries : Named String) (h : Headers) : Headers :=
  entries.foldl (fun h (name, value) => h.set (Text.asciiLower name) (Text.utf8 value)) h

theorem setAll_concat (entries : Named String) (name value : String) (h : Headers) :
    setAll (entries ++ [(name, value)]) h =
      (setAll entries h).set (Text.asciiLower name) (Text.utf8 value) := by
  simp only [setAll, List.foldl_append, List.foldl_cons, List.foldl_nil]

theorem mem_names_setAll (entries : Named String) :
    k ∈ (setAll entries h).names ↔
      (∃ name ∈ entries.names, Text.asciiLower name = k) ∨ k ∈ h.names := by
  induction entries using List.reverseRecOn with
  | nil => simp [setAll, Named.names]
  | append_singleton entries e ih =>
    rw [setAll_concat, mem_names_set, ih, ← or_assoc]
    refine or_congr_left ?_
    simp only [Named.names, List.map_append, List.map_singleton, List.mem_append,
      List.mem_singleton, or_and_right, exists_or, exists_eq_left]
    rw [or_comm, eq_comm]

theorem nodup_setAll (entries : Named String) (distinct : (h.entries.map Prod.fst).Nodup) :
    ((setAll entries h).entries.map Prod.fst).Nodup := by
  induction entries using List.reverseRecOn with
  | nil => exact distinct
  | append_singleton entries e ih =>
    rw [setAll_concat]
    exact nodup_set ih

theorem lookup_set (h : Headers) (k name : String) (value : Bytes) :
    (h.set name value).entries.lookup k =
      if k = name then some value else h.entries.lookup k := by
  rw [set]
  induction h.entries with
  | nil => exact Named.lookup_cons_ite k name value []
  | cons e rest ih =>
    obtain ⟨l, v⟩ := e
    rw [List.filter_cons, Named.lookup_cons_ite]
    by_cases hl : l = name
    · simp only [hl, bne_self_eq_false, Bool.false_eq_true, if_false, ih]
      split <;> rfl
    · simp only [bne_iff_ne.mpr hl, if_true, List.cons_append, Named.lookup_cons_ite, ih]
      by_cases hk : k = l
      · rw [if_pos hk, if_neg fun he => hl (hk.symm.trans he), if_pos hk]
      · rw [if_neg hk, if_neg hk]

def lowered (entries : Named String) : List (String × Bytes) :=
  entries.map fun (name, value) => (Text.asciiLower name, Text.utf8 value)

theorem lookup_setAll (entries : Named String) (h : Headers) (k : String) :
    (setAll entries h).entries.lookup k =
      ((lowered entries).reverse.lookup k).or (h.entries.lookup k) := by
  induction entries using List.reverseRecOn with
  | nil => rfl
  | append_singleton entries e ih =>
    obtain ⟨name, value⟩ := e
    have hlast : (lowered (entries ++ [(name, value)])).reverse =
        (Text.asciiLower name, Text.utf8 value) :: (lowered entries).reverse := by
      rw [lowered, List.map_append, List.reverse_append]
      rfl
    rw [setAll_concat, lookup_set, ih, hlast, Named.lookup_cons_ite]
    by_cases hk : k = Text.asciiLower name
    · rw [if_pos hk, if_pos hk, Option.some_or]
    · rw [if_neg hk, if_neg hk]

theorem names_lowered (entries : Named String) :
    (lowered entries).map Prod.fst = entries.map fun e => Text.asciiLower e.1 := by
  rw [lowered, List.map_map]
  rfl

theorem lookup_reverse_lowered_cons (e : String × String) (rest : Named String) (k : String) :
    (lowered (e :: rest)).reverse.lookup k = ((lowered rest).reverse.lookup k).or
      (if k = Text.asciiLower e.1 then some (Text.utf8 e.2) else none) := by
  rw [lowered, List.map_cons, List.reverse_cons, List.lookup_append, Named.lookup_cons_ite]
  rfl

theorem lookup_lowered_put {entries : Named String}
    (distinct : (entries.map fun e => Text.asciiLower e.1).Nodup) (k name value : String) :
    (lowered (Named.put name value entries)).reverse.lookup k =
      if k = Text.asciiLower name then some (Text.utf8 value)
      else (lowered entries).lookup k := by
  induction entries with
  | nil => exact Named.lookup_cons_ite k (Text.asciiLower name) (Text.utf8 value) []
  | cons e rest ih =>
    obtain ⟨l, v⟩ := e
    obtain ⟨hfresh, hrest⟩ := List.nodup_cons.mp distinct
    have habsent : (lowered rest).lookup (Text.asciiLower l) = none := by
      rw [Named.lookup_eq_none_iff_not_mem, names_lowered]
      exact hfresh
    have hcons : (lowered ((l, v) :: rest)).lookup k =
        if k = Text.asciiLower l then some (Text.utf8 v) else (lowered rest).lookup k :=
      Named.lookup_cons_ite k _ _ _
    unfold Named.put
    split
    · next hl =>
      subst hl
      have hreverse : (lowered rest).reverse.lookup k = (lowered rest).lookup k :=
        Named.lookup_reverse (names_lowered rest ▸ hrest)
      rw [lookup_reverse_lowered_cons, hreverse, hcons]
      by_cases hk : k = Text.asciiLower l
      · simp only [hk, habsent, if_true, Option.none_or]
      · simp only [hk, if_false, Option.or_none]
    · rw [lookup_reverse_lowered_cons, ih hrest, hcons]
      by_cases hk : k = Text.asciiLower name
      · simp only [hk, if_true, Option.some_or]
      · by_cases hkl : k = Text.asciiLower l
        · rw [if_neg hk, if_neg hk, if_pos hkl, if_pos hkl, hkl, habsent, Option.none_or]
        · rw [if_neg hk, if_neg hk, if_neg hkl, if_neg hkl, Option.or_none]

end Headers

namespace Response

theorem withHeader_eq_ok {name : String} {value : Bytes} {r r' : Response}
    (h : r.withHeader name value = .ok r') :
    (Message.headerName? name).isSome ∧
      r' = { r with headers := r.headers.set (Text.asciiLower name) value } := by
  unfold withHeader at h
  split at h
  · cases h
  · next lower hlower =>
    split at h
    · cases h
      rw [(Message.headerName?_eq_some_iff.mp hlower).2, hlower]
      exact ⟨rfl, rfl⟩
    · cases h

theorem withHeaders_eq_ok {entries : Named String} {r r' : Response}
    (h : entries.foldlM (fun (r : Response) (name, value) => r.withHeader name (Text.utf8 value)) r =
      .ok r') :
    (∀ e ∈ entries, (Message.headerName? e.1).isSome) ∧
      r' = { r with headers := Headers.setAll entries r.headers } := by
  induction entries generalizing r with
  | nil =>
    cases h
    exact ⟨List.forall_mem_nil _, rfl⟩
  | cons e rest ih =>
    obtain ⟨r₁, hfirst, hrest⟩ := ok_of_bind h
    obtain ⟨hname, rfl⟩ := withHeader_eq_ok hfirst
    obtain ⟨hnames, rfl⟩ := ih hrest
    exact ⟨List.forall_mem_cons.mpr ⟨hname, hnames⟩, rfl⟩

theorem withCookies (entries : Named NewCookie) (r : Response) :
    entries.foldl (fun (r : Response) (name, cookie) => r.withCookie name cookie) r =
      { r with cookies := Named.putAll entries r.cookies } := by
  induction entries generalizing r with
  | nil => rfl
  | cons e rest ih => exact ih _

end Response

end Accord
