import Accord.Media
import Accord.Proofs.Text

namespace Accord.MediaType

open Text

/-- The parts of a media type as they are read: trimmed, in lower case and without separators. -/
structure Parts (m : MediaType) : Prop where
  main_trimmed : Trimmed m.main.toList
  sub_trimmed : Trimmed m.sub.toList
  main_plain : ∀ c ∈ m.main.toList, c.toLower = c ∧ c ≠ ';' ∧ c ≠ '/'
  sub_plain : ∀ c ∈ m.sub.toList, c.toLower = c ∧ c ≠ ';'

theorem ne_semicolon_of_toLower {c : Char} (h : c ≠ ';') : c.toLower ≠ ';' := by
  rcases toLower_cases c with hsame | ⟨hfirst, hlast, hshift⟩
  · rwa [hsame]
  · intro he
    have hcode : c.toLower.toNat = 59 := by rw [he]; rfl
    omega

theorem isBlank_toLower {c : Char} (h : isBlank c = false) : isBlank c.toLower = false := by
  rcases toLower_cases c with hsame | ⟨hfirst, hlast, hshift⟩
  · rwa [hsame]
  · simp only [isBlank, hshift, Bool.or_eq_false_iff, Bool.and_eq_false_iff, decide_eq_false_iff_not,
      beq_eq_false_iff_ne]
    omega

theorem trimmed_map_toLower {chars : List Char} (h : Trimmed chars) :
    Trimmed (chars.map Char.toLower) := by
  constructor
  · intro c hc
    rw [List.head?_map] at hc
    obtain ⟨d, hd, rfl⟩ := Option.map_eq_some_iff.mp hc
    exact isBlank_toLower (h.front d hd)
  · intro c hc
    rw [List.getLast?_map] at hc
    obtain ⟨d, hd, rfl⟩ := Option.map_eq_some_iff.mp hc
    exact isBlank_toLower (h.rear d hd)

def readNames (full : List Char) : List Char × List Char :=
  match cutChars '/' full with
  | some (main, sub) => (trimChars main, trimChars sub)
  | none => (full, [])

theorem read_of_splitChars {raw : String} {full : List Char} {parts : List (List Char)}
    (h : splitChars ';' raw.toList = full :: parts) :
    read raw = ⟨String.ofList (readNames ((trimChars full).map Char.toLower)).1,
      String.ofList (readNames ((trimChars full).map Char.toLower)).2,
      Named.ofList (parts.filterMap readParam)⟩ := by
  unfold read
  rw [h]
  rcases hcut : cutChars '/' ((trimChars full).map Char.toLower) with _ | ⟨main, sub⟩
  · simp only [readNames, hcut]
  · simp only [readNames, hcut]

theorem mem_of_mem_readNames {full : List Char} {c : Char}
    (h : c ∈ (readNames full).1 ∨ c ∈ (readNames full).2) : c ∈ full := by
  unfold readNames at h
  cases hcut : cutChars '/' full with
  | none =>
    rw [hcut] at h
    exact h.resolve_right List.not_mem_nil
  | some names =>
    rw [hcut] at h
    obtain ⟨hmain, hsub⟩ := mem_of_cutChars hcut
    exact h.elim (fun h => hmain c (mem_of_mem_trimChars h)) fun h => hsub c (mem_of_mem_trimChars h)

theorem exists_of_mem_read {raw : String} {c : Char}
    (h : c ∈ (read raw).main.toList ∨ c ∈ (read raw).sub.toList) :
    ∃ d ∈ raw.toList, d.toLower = c := by
  obtain ⟨full, parts, hsplit⟩ := List.exists_cons_of_ne_nil
    (show splitChars ';' raw.toList ≠ [] from List.cons_ne_nil _ _)
  rw [read_of_splitChars hsplit] at h
  simp only [String.toList_ofList] at h
  obtain ⟨d, hd, rfl⟩ := List.mem_map.mp (mem_of_mem_readNames h)
  have hfull : full ∈ splitChars ';' raw.toList := hsplit ▸ List.mem_cons_self
  exact ⟨d, mem_of_mem_splitChars hfull (mem_of_mem_trimChars hd), rfl⟩

theorem parts_read (raw : String) : (read raw).Parts := by
  obtain ⟨full, parts, hsplit⟩ := List.exists_cons_of_ne_nil
    (show splitChars ';' raw.toList ≠ [] from List.cons_ne_nil _ _)
  have hfull : ∀ c ∈ (trimChars full).map Char.toLower, c.toLower = c ∧ c ≠ ';' := by
    intro c hc
    obtain ⟨d, hd, rfl⟩ := List.mem_map.mp hc
    have hplain : ';' ∉ full := not_mem_of_mem_splitChars (hsplit ▸ List.mem_cons_self)
    refine ⟨toLower_toLower d, ne_semicolon_of_toLower fun he => hplain ?_⟩
    exact he ▸ mem_of_mem_trimChars hd
  rw [read_of_splitChars hsplit]
  have htrimmed := trimmed_map_toLower (trimmed_trimChars full)
  generalize (trimChars full).map Char.toLower = lowered at hfull htrimmed
  unfold readNames
  cases hcut : cutChars '/' lowered with
  | none =>
    have hplain : '/' ∉ lowered := cutChars_eq_none_iff.mp hcut
    constructor
    · rw [String.toList_ofList]
      exact htrimmed
    · exact ⟨fun c hc => (nomatch hc), fun c hc => (nomatch hc)⟩
    · rw [String.toList_ofList]
      intro c hc
      obtain ⟨hlower, hc'⟩ := hfull c hc
      exact ⟨hlower, hc', fun he => hplain (he ▸ hc)⟩
    · intro c hc
      cases hc
  | some names =>
    obtain ⟨main, sub⟩ := names
    obtain ⟨hmain, hsub⟩ := mem_of_cutChars hcut
    constructor
    · rw [String.toList_ofList]
      exact trimmed_trimChars main
    · rw [String.toList_ofList]
      exact trimmed_trimChars sub
    · rw [String.toList_ofList]
      intro c hc
      have hc := mem_of_mem_trimChars hc
      obtain ⟨hlower, hplain⟩ := hfull c (hmain c hc)
      exact ⟨hlower, hplain, fun he => not_mem_of_cutChars hcut (he ▸ hc)⟩
    · rw [String.toList_ofList]
      intro c hc
      exact hfull c (hsub c (mem_of_mem_trimChars hc))

theorem toList_essence (m : MediaType) :
    m.essence.toList = m.main.toList ++ '/' :: m.sub.toList := by
  simp [essence]

theorem Parts.read_essence {m : MediaType} (h : m.Parts) : read m.essence = ⟨m.main, m.sub, []⟩ := by
  have hplain : ∀ c ∈ m.essence.toList, c.toLower = c ∧ c ≠ ';' := by
    intro c hc
    rw [toList_essence, List.mem_append, List.mem_cons] at hc
    rcases hc with hc | rfl | hc
    · obtain ⟨hlower, hc, -⟩ := h.main_plain c hc
      exact ⟨hlower, hc⟩
    · decide
    · exact h.sub_plain c hc
  have hsplit : splitChars ';' m.essence.toList = [m.essence.toList] :=
    splitChars_of_not_mem fun hmem => (hplain _ hmem).2 rfl
  have htrimmed : trimChars m.essence.toList = m.essence.toList := by
    rw [toList_essence]
    exact (h.main_trimmed.around h.sub_trimmed (by decide)).trimChars_eq
  have hlower : m.essence.toList.map Char.toLower = m.essence.toList :=
    (List.map_congr_left fun c hc => (hplain c hc).1).trans (List.map_id _)
  have hcut : cutChars '/' m.essence.toList = some (m.main.toList, m.sub.toList) := by
    rw [toList_essence]
    exact cutChars_append (fun hmem => (h.main_plain _ hmem).2.2 rfl) _
  rw [read_of_splitChars hsplit, htrimmed, hlower, readNames, hcut]
  dsimp only
  rw [h.main_trimmed.trimChars_eq, h.sub_trimmed.trimChars_eq, String.ofList_toList,
    String.ofList_toList]
  rfl

theorem essence_read_essence (raw : String) :
    (read (read raw).essence).essence = (read raw).essence := by
  rw [(parts_read raw).read_essence]
  rfl

end Accord.MediaType
