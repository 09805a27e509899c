import Accord.Text.Case
import Accord.Text.Order
import Accord.Text.Split
import Mathlib.Data.List.DropRight
import Mathlib.Data.List.Induction

namespace Accord.Text

theorem mem_insertSorted {s t : String} {sorted : List String} :
    s ∈ insertSorted t sorted ↔ s = t ∨ s ∈ sorted := by
  induction sorted with
  | nil => rw [insertSorted, List.mem_singleton, or_iff_left List.not_mem_nil]
  | cons u rest ih =>
    unfold insertSorted
    split
    · next h => simp only [h, List.mem_cons, or_self_left]
    · split
      · rw [List.mem_cons]
      · rw [List.mem_cons, List.mem_cons, ih, or_left_comm]

theorem mem_sortedSet {s : String} {texts : List String} : s ∈ sortedSet texts ↔ s ∈ texts := by
  unfold sortedSet
  induction texts using List.reverseRecOn with
  | nil => rfl
  | append_singleton texts t ih =>
    rw [List.foldl_append, List.foldl_cons, List.foldl_nil, mem_insertSorted, ih, List.mem_append,
      List.mem_singleton, or_comm]

theorem sortedSet_eq_nil_iff {texts : List String} : sortedSet texts = [] ↔ texts = [] := by
  simp only [List.eq_nil_iff_forall_not_mem, mem_sortedSet]

theorem pairwise_insertSorted {sorted : List String} (h : sorted.Pairwise (· < ·)) (t : String) :
    (insertSorted t sorted).Pairwise (· < ·) := by
  induction sorted with
  | nil => exact List.pairwise_singleton _ t
  | cons u rest ih =>
    obtain ⟨hfirst, hrest⟩ := List.pairwise_cons.mp h
    unfold insertSorted
    split
    · exact h
    next hne =>
      split
      · next hlt =>
        refine List.pairwise_cons.mpr ⟨fun s hs => ?_, h⟩
        rcases List.mem_cons.mp hs with rfl | hs
        · exact hlt
        · exact String.lt_trans hlt (hfirst s hs)
      · next hnlt =>
        refine List.pairwise_cons.mpr ⟨fun s hs => ?_, ih hrest⟩
        rcases mem_insertSorted.mp hs with rfl | hs
        · by_contra hngt
          exact hne (String.le_antisymm (String.not_lt.mp hngt) (String.not_lt.mp hnlt))
        · exact hfirst s hs

theorem pairwise_sortedSet (texts : List String) : (sortedSet texts).Pairwise (· < ·) := by
  unfold sortedSet
  induction texts using List.reverseRecOn with
  | nil => exact List.Pairwise.nil
  | append_singleton texts t ih =>
    rw [List.foldl_append, List.foldl_cons, List.foldl_nil]
    exact pairwise_insertSorted ih t

theorem nodup_of_ascending {texts : List String} (h : texts.Pairwise (· < ·)) : texts.Nodup := by
  refine List.Pairwise.imp (fun {s t} hlt he => ?_) h
  rw [he] at hlt
  exact String.lt_irrefl _ hlt

theorem sortedSet_eq_self {texts : List String} (h : texts.Pairwise (· < ·)) :
    sortedSet texts = texts := by
  have hperm := (List.perm_ext_iff_of_nodup (nodup_of_ascending (pairwise_sortedSet texts))
    (nodup_of_ascending h)).mpr fun s => mem_sortedSet
  refine hperm.eq_of_pairwise (fun s t _ _ hst hts => ?_) (pairwise_sortedSet texts) h
  exact absurd (String.lt_trans hst hts) (String.lt_irrefl _)

def IsAscii (s : String) : Prop := ∀ c ∈ s.toList, c.toNat < 128

theorem toNat_toLower (c : Char) :
    c.toLower.toNat = if 65 ≤ c.toNat ∧ c.toNat ≤ 90 then c.toNat + 32 else c.toNat := by
  unfold Char.toLower
  split
  · next hupper =>
    have hfirst : 65 ≤ c.val.toNat := hupper.1
    have hlast : c.val.toNat ≤ 90 := hupper.2
    have hshift : ('a'.val - 'A'.val).toNat = 32 := rfl
    rw [if_pos ⟨hfirst, hlast⟩]
    change (c.val + ('a'.val - 'A'.val)).toNat = c.val.toNat + 32
    rw [UInt32.toNat_add, hshift]
    omega
  · next hother => exact (if_neg hother).symm

theorem toNat_toUpper (c : Char) :
    c.toUpper.toNat = if 97 ≤ c.toNat ∧ c.toNat ≤ 122 then c.toNat - 32 else c.toNat := by
  unfold Char.toUpper
  split
  · next hlower =>
    have hfirst : 97 ≤ c.val.toNat := hlower.1
    have hlast : c.val.toNat ≤ 122 := hlower.2
    -- The distance is negative, so that adding it wraps.
    have hshift : ('A'.val - 'a'.val).toNat = 4294967264 := rfl
    rw [if_pos ⟨hfirst, hlast⟩]
    change (c.val + ('A'.val - 'a'.val)).toNat = c.val.toNat - 32
    rw [UInt32.toNat_add, hshift]
    omega
  · next hother => exact (if_neg hother).symm

theorem toLower_cases (c : Char) :
    c.toLower = c ∨ (65 ≤ c.toNat ∧ c.toNat ≤ 90 ∧ c.toLower.toNat = c.toNat + 32) := by
  by_cases h : 65 ≤ c.toNat ∧ c.toNat ≤ 90
  · exact Or.inr ⟨h.1, h.2, by rw [toNat_toLower, if_pos h]⟩
  · exact Or.inl (Char.toNat_inj.mp (by rw [toNat_toLower, if_neg h]))

theorem toNat_toLower_lt {c : Char} (h : c.toNat < 128) : c.toLower.toNat < 128 := by
  rcases toLower_cases c with hsame | ⟨-, hlast, hshift⟩
  · rwa [hsame]
  · omega

theorem toLower_toLower (c : Char) : c.toLower.toLower = c.toLower := by
  rcases toLower_cases c.toLower with hsame | ⟨hfirst, hlast, -⟩
  · exact hsame
  · rcases toLower_cases c with hsame | ⟨hfirst', -, hshift⟩
    · rw [hsame, hsame]
    · omega

theorem toLower_toUpper (c : Char) : c.toUpper.toLower = c.toLower := by
  refine Char.toNat_inj.mp ?_
  grind [toNat_toLower, toNat_toUpper]

theorem toUpper_toLower (c : Char) : c.toLower.toUpper = c.toUpper := by
  refine Char.toNat_inj.mp ?_
  grind [toNat_toLower, toNat_toUpper]

theorem lowerChars_of_ascii {chars : List Char} (h : ∀ c ∈ chars, c.toNat < 128) (before : List Char) :
    lowerChars before chars = chars.map Char.toLower := by
  induction chars generalizing before with
  | nil => rfl
  | cons c rest ih =>
    obtain ⟨hc, hrest⟩ := List.forall_mem_cons.mp h
    have hplain : c.toNat ≠ 0x130 := by omega
    have hsigma : c.toNat ≠ 0x3A3 := by omega
    simp only [lowerChars, hplain, hsigma, false_and, if_false, lowerChar, hc, if_true, ih hrest,
      List.map_cons, List.singleton_append]

theorem lower_of_isAscii {s : String} (h : IsAscii s) : lower s = asciiLower s :=
  congrArg String.ofList (lowerChars_of_ascii h [])

theorem isAscii_asciiLower {s : String} (h : IsAscii s) : IsAscii (asciiLower s) := by
  intro c hc
  rw [asciiLower, String.toList_ofList] at hc
  obtain ⟨d, hd, rfl⟩ := List.mem_map.mp hc
  exact toNat_toLower_lt (h d hd)

theorem asciiLower_asciiLower (s : String) : asciiLower (asciiLower s) = asciiLower s := by
  simp only [asciiLower, String.toList_ofList, List.map_map]
  exact congrArg String.ofList (List.map_congr_left fun c _ => toLower_toLower c)

theorem asciiLower_asciiUpper (s : String) : asciiLower (asciiUpper s) = asciiLower s := by
  simp only [asciiLower, asciiUpper, String.toList_ofList, List.map_map]
  exact congrArg String.ofList (List.map_congr_left fun c _ => toLower_toUpper c)

theorem asciiUpper_asciiLower (s : String) : asciiUpper (asciiLower s) = asciiUpper s := by
  simp only [asciiLower, asciiUpper, String.toList_ofList, List.map_map]
  exact congrArg String.ofList (List.map_congr_left fun c _ => toUpper_toLower c)

theorem lower_asciiLower {s : String} (h : IsAscii s) : lower (asciiLower s) = lower s := by
  rw [lower_of_isAscii (isAscii_asciiLower h), asciiLower_asciiLower, lower_of_isAscii h]

theorem splitChars_cons (separator c : Char) (s : List Char) :
    ∃ piece pieces, splitChars separator s = piece :: pieces ∧
      splitChars separator (c :: s) =
        if c = separator then [] :: piece :: pieces else (c :: piece) :: pieces := by
  refine ⟨_, _, rfl, ?_⟩
  simp only [splitChars, List.foldr_cons]
  split <;> rfl

theorem splitChars_of_not_mem {separator : Char} {s : List Char} (h : separator ∉ s) :
    splitChars separator s = [s] := by
  induction s with
  | nil => rfl
  | cons c rest ih =>
    obtain ⟨hc, hrest⟩ := not_or.mp (List.mem_cons.not.mp h)
    obtain ⟨piece, pieces, hsplit, hcons⟩ := splitChars_cons separator c rest
    cases hsplit.symm.trans (ih hrest)
    rw [hcons, if_neg fun he => hc he.symm]

theorem not_mem_of_mem_splitChars {separator : Char} {s piece : List Char}
    (h : piece ∈ splitChars separator s) : separator ∉ piece := by
  induction s generalizing piece with
  | nil =>
    cases List.mem_singleton.mp h
    exact List.not_mem_nil
  | cons c rest ih =>
    obtain ⟨first, others, hsplit, hcons⟩ := splitChars_cons separator c rest
    rw [hsplit] at ih
    rw [hcons] at h
    split at h
    · rcases List.mem_cons.mp h with rfl | h
      · exact List.not_mem_nil
      · exact ih h
    · next hc =>
      rcases List.mem_cons.mp h with rfl | h
      · rw [List.mem_cons, not_or]
        exact ⟨fun he => hc he.symm, ih List.mem_cons_self⟩
      · exact ih (List.mem_cons_of_mem _ h)

theorem mem_of_mem_splitChars {separator c : Char} {s piece : List Char}
    (h : piece ∈ splitChars separator s) (hc : c ∈ piece) : c ∈ s := by
  induction s generalizing piece with
  | nil =>
    cases List.mem_singleton.mp h
    cases hc
  | cons d rest ih =>
    obtain ⟨first, others, hsplit, hcons⟩ := splitChars_cons separator d rest
    rw [hsplit] at ih
    rw [hcons] at h
    split at h
    · rcases List.mem_cons.mp h with rfl | h
      · cases hc
      · exact List.mem_cons_of_mem _ (ih h hc)
    · rcases List.mem_cons.mp h with rfl | h
      · exact (List.mem_cons.mp hc).elim (fun he => he ▸ List.mem_cons_self)
          fun hc => List.mem_cons_of_mem _ (ih List.mem_cons_self hc)
      · exact List.mem_cons_of_mem _ (ih (List.mem_cons_of_mem _ h) hc)

theorem splitChars_append_cons (separator : Char) (s t : List Char) :
    splitChars separator (s ++ separator :: t) = splitChars separator s ++ splitChars separator t := by
  induction s with
  | nil =>
    obtain ⟨piece, pieces, hsplit, hcons⟩ := splitChars_cons separator separator t
    rw [List.nil_append, hcons, if_pos rfl, hsplit]
    rfl
  | cons c s ih =>
    obtain ⟨piece, pieces, hsplit, hcons⟩ := splitChars_cons separator c s
    obtain ⟨piece', pieces', hsplit', hcons'⟩ := splitChars_cons separator c (s ++ separator :: t)
    rw [ih, hsplit, List.cons_append] at hsplit'
    obtain ⟨rfl, rfl⟩ := List.cons.inj hsplit'
    rw [List.cons_append, hcons', hcons]
    split <;> rfl

theorem takeWhile_append_cons {α : Type} {p : α → Bool} {front : List α} {a : α} (hfront : ∀ b ∈ front, p b = true)
    (ha : p a = false) (rest : List α) : (front ++ a :: rest).takeWhile p = front := by
  rw [List.takeWhile_append_of_pos hfront, List.takeWhile_cons_of_neg (Bool.eq_false_iff.mp ha), List.append_nil]

theorem dropWhile_append_cons {α : Type} {p : α → Bool} {front : List α} {a : α} (hfront : ∀ b ∈ front, p b = true)
    (ha : p a = false) (rest : List α) : (front ++ a :: rest).dropWhile p = a :: rest := by
  rw [List.dropWhile_append_of_pos hfront, List.dropWhile_cons_of_neg (Bool.eq_false_iff.mp ha)]

theorem cutChars_append {separator : Char} {before : List Char} (h : separator ∉ before)
    (behind : List Char) :
    cutChars separator (before ++ separator :: behind) = some (before, behind) := by
  have hall : ∀ c ∈ before, (c != separator) = true := by
    intro c hc
    exact bne_iff_ne.mpr fun he => h (he ▸ hc)
  have hstop : (separator != separator) = false := bne_self_eq_false separator
  rw [cutChars, dropWhile_append_cons hall hstop, takeWhile_append_cons hall hstop]

theorem not_mem_of_cutChars {separator : Char} {s before behind : List Char}
    (h : cutChars separator s = some (before, behind)) : separator ∉ before := by
  unfold cutChars at h
  split at h
  · cases h
  · cases h
    intro hmem
    have hne := List.mem_takeWhile_imp hmem
    simp at hne

theorem mem_of_cutChars {separator : Char} {s before behind : List Char}
    (h : cutChars separator s = some (before, behind)) :
    (∀ c ∈ before, c ∈ s) ∧ ∀ c ∈ behind, c ∈ s := by
  unfold cutChars at h
  split at h
  · cases h
  · next hdrop =>
    cases h
    refine ⟨fun c hc => (List.takeWhile_sublist _).mem hc, fun c hc => ?_⟩
    refine (List.dropWhile_sublist (· != separator)).mem ?_
    rw [hdrop]
    exact List.mem_cons_of_mem _ hc

theorem cutChars_eq_none_iff {separator : Char} {s : List Char} :
    cutChars separator s = none ↔ separator ∉ s := by
  unfold cutChars
  split
  · next hdrop =>
    have hall := List.dropWhile_eq_nil_iff.mp hdrop
    refine ⟨fun _ hmem => ?_, fun _ => rfl⟩
    have hne := hall separator hmem
    simp at hne
  · next c rest hdrop =>
    refine ⟨fun h => (nomatch h), fun h => ?_⟩
    have hhead := List.head?_dropWhile_not (· != separator) s
    rw [hdrop] at hhead
    have hc : c = separator := by simpa using hhead
    have hmem : c ∈ s := (List.dropWhile_sublist (· != separator)).mem
      (hdrop ▸ List.mem_cons_self)
    exact absurd (hc ▸ hmem) h

structure Trimmed (s : List Char) : Prop where
  front : ∀ c, s.head? = some c → isBlank c = false
  rear : ∀ c, s.getLast? = some c → isBlank c = false

theorem isBlank_head_dropWhile {s : List Char} {c : Char}
    (h : (s.dropWhile isBlank).head? = some c) : isBlank c = false := by
  have hhead := List.head?_dropWhile_not isBlank s
  rw [h] at hhead
  exact hhead

theorem trimmed_trimChars (s : List Char) : Trimmed (trimChars s) := by
  rw [trimChars, dropEndWhile]
  constructor
  · intro c hc
    obtain ⟨rest, hrest⟩ := List.rdropWhile_prefix isBlank (s.dropWhile isBlank)
    refine isBlank_head_dropWhile (s := s) ?_
    rw [← hrest, List.head?_append]
    exact congrArg (·.or rest.head?) hc
  · intro c hc
    rw [List.getLast?_reverse] at hc
    exact isBlank_head_dropWhile hc

theorem mem_of_mem_trimChars {c : Char} {s : List Char} (h : c ∈ trimChars s) : c ∈ s :=
  (List.dropWhile_sublist isBlank).mem ((List.rdropWhile_prefix isBlank _).sublist.mem h)

theorem dropWhile_isBlank_eq {s : List Char} (h : ∀ c, s.head? = some c → isBlank c = false) :
    s.dropWhile isBlank = s := by
  cases s with
  | nil => rfl
  | cons c rest => rw [List.dropWhile_cons, h c rfl, if_neg Bool.false_ne_true]

theorem Trimmed.trimChars_eq {s : List Char} (h : Trimmed s) : trimChars s = s := by
  have hrear : ∀ c, s.reverse.head? = some c → isBlank c = false := by
    rw [List.head?_reverse]
    exact h.rear
  rw [trimChars, dropWhile_isBlank_eq h.front, dropEndWhile, dropWhile_isBlank_eq hrear,
    List.reverse_reverse]

theorem Trimmed.around {before behind : List Char} (hbefore : Trimmed before)
    (hbehind : Trimmed behind) {separator : Char} (h : isBlank separator = false) :
    Trimmed (before ++ separator :: behind) := by
  constructor
  · intro c hc
    cases before with
    | nil =>
      cases hc
      exact h
    | cons first rest => exact hbefore.front c hc
  · intro c hc
    rw [List.getLast?_append, List.getLast?_cons] at hc
    cases hlast : behind.getLast? with
    | none =>
      rw [hlast] at hc
      cases hc
      exact h
    | some last =>
      rw [hlast] at hc
      cases hc
      exact hbehind.rear _ hlast

def readList (s : String) : List String :=
  ((split ',' s).map trim).filter fun entry => !entry.isEmpty

structure IsEntry (s : String) : Prop where
  ne_empty : s ≠ ""
  solid : ∀ c ∈ s.toList, c ≠ ',' ∧ isBlank c = false

theorem IsEntry.trim_eq {s : String} (h : IsEntry s) : trim s = s := by
  have htrimmed : Trimmed s.toList :=
    ⟨fun c hc => (h.solid c (List.mem_of_head? hc)).2, fun c hc => (h.solid c (List.mem_of_getLast? hc)).2⟩
  rw [trim, htrimmed.trimChars_eq, String.ofList_toList]

theorem readList_append (s t : String) : readList (s ++ "," ++ t) = readList s ++ readList t := by
  have hchars : (s ++ "," ++ t).toList = s.toList ++ ',' :: t.toList := by simp
  simp only [readList, split, hchars, splitChars_append_cons, List.map_append, List.filter_append]

theorem readList_entry {s : String} (h : IsEntry s) : readList s = [s] := by
  have hcomma : ',' ∉ s.toList := fun hc => (h.solid ',' hc).1 rfl
  have hempty : s.isEmpty = false := by
    rw [← Bool.not_eq_true, String.isEmpty_iff]
    exact h.ne_empty
  simp [readList, split, splitChars_of_not_mem hcomma, h.trim_eq, hempty]

theorem readList_blank (s : String) : readList (" " ++ s) = readList s := by
  have hchars : (" " ++ s).toList = ' ' :: s.toList := by simp
  obtain ⟨piece, pieces, hsplit, hcons⟩ := splitChars_cons ',' ' ' s.toList
  have hblank : isBlank ' ' = true := by decide
  have htrim : trimChars (' ' :: piece) = trimChars piece := by
    rw [trimChars, List.dropWhile_cons, if_pos hblank, trimChars]
  have hother : (' ' : Char) ≠ ',' := by decide
  simp only [readList, split, trim, hchars, hcons, hsplit, if_neg hother, List.map_cons, String.toList_ofList,
    htrim]

theorem readList_join {entries : List String} (h : ∀ s ∈ entries, IsEntry s) :
    readList (join ", " entries) = entries := by
  induction entries with
  | nil => decide
  | cons s rest ih =>
    obtain ⟨hs, hrest⟩ := List.forall_mem_cons.mp h
    cases rest with
    | nil => exact readList_entry hs
    | cons t rest =>
      have hseparator : ", " = "," ++ " " := by decide
      have hjoin : join ", " (s :: t :: rest) = s ++ "," ++ (" " ++ join ", " (t :: rest)) := by
        calc join ", " (s :: t :: rest)
          _ = s ++ ", " ++ join ", " (t :: rest) := String.intercalate_cons_cons
          _ = s ++ ("," ++ " ") ++ join ", " (t :: rest) :=
            congrArg (fun separator => s ++ separator ++ join ", " (t :: rest)) hseparator
          _ = _ := by simp only [String.append_assoc]
      rw [hjoin, readList_append, readList_blank, ih hrest, readList_entry hs]
      rfl

/-- The text starts with this one. -/
def Opens (start text : String) : Prop := start.toList <+: text.toList

instance (start text : String) : Decidable (Opens start text) :=
  inferInstanceAs (Decidable (start.toList <+: text.toList))

theorem Opens.apart {first second text : String} (h : Opens first text)
    (hfirst : ¬Opens first second) (hsecond : ¬Opens second first) : ¬Opens second text := by
  intro hboth
  rcases List.prefix_or_prefix_of_prefix h hboth with hprefix | hprefix
  · exact hfirst hprefix
  · exact hsecond hprefix

end Accord.Text
