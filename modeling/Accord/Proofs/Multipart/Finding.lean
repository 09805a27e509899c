import Accord.Body.Multipart
import Mathlib.Data.List.Infix

namespace Accord.Multipart

variable {pattern bytes before behind rest : Bytes} {b separator : UInt8}

theorem indexOf?_shift (pattern : Bytes) (n m : Nat) (bytes : Bytes) :
    indexOf? pattern (n + m) bytes = (indexOf? pattern n bytes).map (· + m) := by
  induction bytes generalizing n with
  | nil =>
    unfold indexOf?
    split <;> rfl
  | cons b rest ih =>
    unfold indexOf?
    split
    · rfl
    · rw [Nat.add_right_comm, ih]

theorem cutAt?_front (h : pattern ≠ []) (rest : Bytes) : cutAt? pattern (pattern ++ rest) = some ([], rest) := by
  obtain ⟨b, tail, rfl⟩ := List.exists_cons_of_ne_nil h
  have hindex : indexOf? (b :: tail) 0 (b :: (tail ++ rest)) = some 0 := by
    rw [indexOf?, if_pos]
    exact List.isPrefixOf_iff_prefix.mpr ⟨rest, rfl⟩
  rw [cutAt?, List.cons_append, hindex]
  simp

theorem cutAt?_cons_of_not_front (h : ¬pattern <+: b :: rest) :
    cutAt? pattern (b :: rest) = (cutAt? pattern rest).map fun cut => (b :: cut.1, cut.2) := by
  have hindex : indexOf? pattern 0 (b :: rest) = (indexOf? pattern 0 rest).map (· + 1) := by
    rw [indexOf?, if_neg (mt List.isPrefixOf_iff_prefix.mp h), indexOf?_shift]
  rw [cutAt?, cutAt?, hindex]
  cases indexOf? pattern 0 rest with
  | none => rfl
  | some n => simp [Nat.add_right_comm]

theorem cutAt?_nil (h : pattern ≠ []) : cutAt? pattern [] = none := by
  rw [cutAt?, indexOf?, if_neg (by simpa using h)]
  rfl

theorem prefix_dropLast_iff (b : UInt8) (before pattern behind : Bytes) :
    pattern <+: b :: (before ++ (pattern ++ behind)) ↔ pattern <+: b :: (before ++ pattern.dropLast) := by
  have hshorter : b :: (before ++ pattern.dropLast) <+: b :: (before ++ (pattern ++ behind)) :=
    (List.prefix_append_right_inj (b :: before)).mpr ((List.dropLast_prefix pattern).trans (List.prefix_append _ _))
  refine ⟨fun h => List.prefix_of_prefix_length_le h hshorter ?_, fun h => h.trans hshorter⟩
  rw [List.length_cons, List.length_append, List.length_dropLast]
  omega

theorem cutAt?_append (h : pattern ≠ []) (first : ¬pattern <:+: before ++ pattern.dropLast) (behind : Bytes) :
    cutAt? pattern (before ++ (pattern ++ behind)) = some (before, behind) := by
  induction before with
  | nil => exact cutAt?_front h behind
  | cons b before ih =>
    have hrest : ¬pattern <:+: before ++ pattern.dropLast := fun hinside =>
      first (hinside.trans (List.suffix_cons b _).isInfix)
    have hfront : ¬pattern <+: b :: (before ++ (pattern ++ behind)) := fun hfront =>
      first ((prefix_dropLast_iff b before pattern behind).mp hfront).isInfix
    rw [List.cons_append, cutAt?_cons_of_not_front hfront, ih hrest]
    rfl

/-- Where a pattern is found it stands, and it does not begin before. -/
theorem of_cutAt? (h : pattern ≠ []) (hcut : cutAt? pattern bytes = some (before, behind)) :
    bytes = before ++ (pattern ++ behind) ∧ ¬pattern <:+: before ++ pattern.dropLast := by
  induction bytes generalizing before with
  | nil =>
    rw [cutAt?_nil h] at hcut
    cases hcut
  | cons b rest ih =>
    by_cases hfront : pattern <+: b :: rest
    · obtain ⟨tail, htail⟩ := hfront
      rw [← htail, cutAt?_front h] at hcut
      cases hcut
      refine ⟨htail.symm, fun hinside => ?_⟩
      have hlength := hinside.length_le
      have hpositive := List.length_pos_iff.mpr h
      rw [List.nil_append, List.length_dropLast] at hlength
      omega
    · rw [cutAt?_cons_of_not_front hfront] at hcut
      obtain ⟨⟨before, _⟩, hrest, heq⟩ := Option.map_eq_some_iff.mp hcut
      cases heq
      obtain ⟨rfl, first⟩ := ih hrest
      refine ⟨rfl, fun hinside => ?_⟩
      rcases List.infix_cons_iff.mp hinside with hstart | hinside
      · exact hfront ((prefix_dropLast_iff b before pattern _).mpr hstart)
      · exact first hinside

theorem cutAt?_eq_none_iff (h : pattern ≠ []) : cutAt? pattern bytes = none ↔ ¬pattern <:+: bytes := by
  constructor
  · rintro hnone ⟨before, behind, rfl⟩
    induction before with
    | nil =>
      rw [List.nil_append, cutAt?_front h] at hnone
      cases hnone
    | cons b before ih =>
      by_cases hfront : pattern <+: b :: (before ++ pattern ++ behind)
      · obtain ⟨tail, htail⟩ := hfront
        rw [List.cons_append, List.cons_append, ← htail, cutAt?_front h] at hnone
        cases hnone
      · rw [List.cons_append, List.cons_append, cutAt?_cons_of_not_front hfront, Option.map_eq_none_iff] at hnone
        exact ih hnone
  · intro hinside
    cases hcut : cutAt? pattern bytes with
    | none => rfl
    | some cut =>
      obtain ⟨hsplit, -⟩ := of_cutAt? h hcut
      rw [← List.append_assoc] at hsplit
      exact absurd ⟨cut.1, cut.2, hsplit.symm⟩ hinside

theorem cutAt?_append_cons (h : pattern ≠ []) (hseparator : separator ∉ pattern) (bytes rest : Bytes) :
    cutAt? pattern (bytes ++ separator :: rest) =
      match cutAt? pattern bytes with
      | some (before, behind) => some (before, behind ++ separator :: rest)
      | none => (cutAt? pattern rest).map fun cut => (bytes ++ separator :: cut.1, cut.2) := by
  have hwithin : ∀ bytes, pattern <+: bytes ++ separator :: rest → pattern <+: bytes := fun bytes hfront => by
    rcases List.prefix_or_prefix_of_prefix hfront (List.prefix_append bytes _) with hshort | ⟨tail, rfl⟩
    · exact hshort
    · cases tail with
      | nil => simp
      | cons c tail =>
        obtain ⟨more, hmore⟩ := (List.prefix_append_right_inj bytes).mp hfront
        obtain ⟨rfl, -⟩ := List.cons.inj hmore
        exact absurd (List.mem_append_right _ List.mem_cons_self) hseparator
  induction bytes with
  | nil =>
    have hfront : ¬pattern <+: separator :: rest := fun hfront => h (List.prefix_nil.mp (hwithin [] hfront))
    rw [cutAt?_nil h, List.nil_append, cutAt?_cons_of_not_front hfront]
    rfl
  | cons b bytes ih =>
    by_cases hfront : pattern <+: b :: bytes
    · obtain ⟨tail, htail⟩ := hfront
      rw [← htail, cutAt?_front h, List.append_assoc, cutAt?_front h]
    · have hfront' : ¬pattern <+: b :: (bytes ++ separator :: rest) := mt (hwithin (b :: bytes)) hfront
      rw [List.cons_append, cutAt?_cons_of_not_front hfront', ih, cutAt?_cons_of_not_front hfront]
      cases cutAt? pattern bytes with
      | none => cases cutAt? pattern rest <;> rfl
      | some cut => rfl

end Accord.Multipart
