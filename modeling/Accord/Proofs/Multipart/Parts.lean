import Accord.Proofs.Multipart.Attributes
import Accord.Proofs.Named

namespace Accord.Multipart

variable {bytes rest name value data block boundary : Bytes} {c : UInt8} {tail : Bytes}

theorem infix_append_of_not_mem (h : c ∉ bytes) : c :: tail <:+: bytes ++ rest ↔ c :: tail <:+: rest := by
  induction bytes with
  | nil => rfl
  | cons b bytes ih =>
    obtain ⟨hb, hbytes⟩ := not_or.mp (List.mem_cons.not.mp h)
    rw [List.cons_append, List.infix_cons_iff, ih hbytes, or_iff_right]
    rintro ⟨_, hfront⟩
    exact hb (List.cons.inj hfront).1

theorem not_infix_line {line : Bytes} {b : UInt8} (hline : 13 ∉ line) (hb : b ≠ 13)
    (h : ¬newline ++ newline <:+: b :: rest) : ¬newline ++ newline <:+: line ++ 13 :: 10 :: b :: rest := by
  refine (infix_append_of_not_mem hline).not.mpr ?_
  rw [List.infix_cons_iff, List.infix_cons_iff, not_or, not_or]
  refine ⟨?_, ?_, h⟩
  · rintro ⟨_, hstart⟩
    simp [newline, hb.symm] at hstart
  · rintro ⟨_, hstart⟩
    simp [newline] at hstart

theorem not_infix_append_dropLast (hhead : c ∉ tail) (h : ¬c :: tail <:+: data) :
    ¬c :: tail <:+: data ++ (c :: tail).dropLast := by
  induction data with
  | nil =>
    intro hinside
    have hlength := hinside.length_le
    rw [List.nil_append, List.length_dropLast, List.length_cons] at hlength
    omega
  | cons b data ih =>
    rw [List.cons_append, List.infix_cons_iff, not_or]
    refine ⟨fun hfront => ?_, ih fun hinside => h (hinside.trans (List.suffix_cons b data).isInfix)⟩
    rcases List.prefix_or_prefix_of_prefix hfront (List.prefix_append (b :: data) _) with hwhole | ⟨left, hleft⟩
    · exact h hwhole.isInfix
    · cases left with
      | nil => exact h (by rw [← hleft, List.append_nil])
      | cons d left =>
        -- what is left of the pattern would begin with its first byte
        rw [← hleft] at hfront
        have hagain : d :: left <+: c :: tail :=
          ((List.prefix_append_right_inj (b :: data)).mp hfront).trans (hleft ▸ List.dropLast_prefix _)
        obtain ⟨rfl, -⟩ := List.cons_prefix_cons.mp hagain
        obtain ⟨-, rfl⟩ := List.cons.inj hleft
        exact hhead (List.mem_append_right _ List.mem_cons_self)

structure HeaderValue (value : Bytes) : Prop where
  bytes : ∀ b ∈ value, Message.isValueByte b = true
  front : ∀ b ∈ value.head?, isBlank b = false
  back : ∀ b ∈ value.getLast?, isBlank b = false

def lowered (name : Bytes) : String := String.ofList (name.map fun b => (Char.ofNat b.toNat).toLower)

theorem HeaderValue.dropEndBlanks (h : HeaderValue value) : dropEndBlanks value = value := by
  have hkept : value.reverse.dropWhile isBlank = value.reverse := by
    cases hreverse : value.reverse with
    | nil => rfl
    | cons b front =>
      have hlast : value.getLast? = some b := by rw [← List.head?_reverse, hreverse]; rfl
      rw [List.dropWhile_cons_of_neg (Bool.eq_false_iff.mp (h.back b hlast))]
  rw [Multipart.dropEndBlanks, hkept, List.reverse_reverse]

theorem HeaderValue.dropWhile_isBlank (h : HeaderValue value) (rest : Bytes) :
    (32 :: (value ++ 13 :: 10 :: rest)).dropWhile isBlank = value ++ 13 :: 10 :: rest := by
  rw [List.dropWhile_cons_of_pos (by decide)]
  cases value with
  | nil => rfl
  | cons b value => exact List.dropWhile_cons_of_neg (Bool.eq_false_iff.mp (h.front b rfl))

theorem readHeaders_line {limit : Nat} {headers : Named Bytes} (hname : name ≠ [])
    (htoken : ∀ b ∈ name, isTokenByte b = true) (hvalue : HeaderValue value) (rest : Bytes) :
    readHeaders (limit + 1) headers (name ++ 58 :: 32 :: (value ++ 13 :: 10 :: rest)) =
      readHeaders limit (Named.put (lowered name) value headers) rest := by
  obtain ⟨b, name, rfl⟩ := List.exists_cons_of_ne_nil hname
  have hreturn : b ≠ 13 := fun he => absurd (htoken b List.mem_cons_self) (by rw [he]; decide)
  have hfeed : b ≠ 10 := fun he => absurd (htoken b List.mem_cons_self) (by rw [he]; decide)
  rw [List.cons_append, readHeaders.eq_4 _ _ _ (fun _ h => hreturn (List.cons.inj h).1)
    (fun _ h => hfeed (List.cons.inj h).1), ← List.cons_append]
  rw [Text.takeWhile_append_cons htoken (by decide), Text.dropWhile_append_cons htoken (by decide)]
  have hblank := hvalue.dropWhile_isBlank rest
  have htake : (value ++ 13 :: 10 :: rest).takeWhile Message.isValueByte = value :=
    Text.takeWhile_append_cons hvalue.bytes (by decide) _
  have hdrop : (value ++ 13 :: 10 :: rest).dropWhile Message.isValueByte = 13 :: 10 :: rest :=
    Text.dropWhile_append_cons hvalue.bytes (by decide) _
  split
  · next h =>
    cases h
    rw [hblank]
    dsimp only
    rw [htake, hdrop, hvalue.dropEndBlanks]
    rfl
  · next h => exact absurd rfl (h _)

theorem partsAfter_end (boundary : Bytes) (limit : Nat) (parts : List Part) (rest : Bytes) :
    partsAfter boundary limit parts (dashes ++ rest) = .ok parts := by
  have hlength : ¬(dashes ++ rest).length < 2 := by simp [dashes]
  rw [partsAfter, if_neg hlength, if_pos (List.isPrefixOf_iff_prefix.mpr (List.prefix_append _ _))]

theorem partsAfter_part {limit : Nat} {parts : List Part} {headers : Named Bytes}
    (hblock : ¬newline ++ newline <:+: block ++ (newline ++ newline).dropLast)
    (hheaders : readHeaders headerLimit [] (block ++ newline ++ newline) = some headers)
    (hboundary : 13 ∉ boundary) (hdata : ¬newline ++ dashes ++ boundary <:+: data) (hroom : parts.length < limit)
    (rest : Bytes) :
    partsAfter boundary limit parts
        (newline ++ (block ++ ((newline ++ newline) ++ (data ++ ((newline ++ dashes ++ boundary) ++ rest))))) =
      partsAfter boundary limit (parts ++ [⟨PartInfo.ofHeaders headers, data⟩]) rest := by
  have hdelimiter : 13 ∉ 10 :: 45 :: 45 :: boundary := by simpa using hboundary
  have hend : ∀ bytes, endLine? (newline ++ bytes) = some bytes := fun _ => rfl
  have hempty : newline ++ newline ≠ [] := List.cons_ne_nil _ _
  have hcut := cutAt?_append hempty hblock (data ++ ((newline ++ dashes ++ boundary) ++ rest))
  have hne : newline ++ dashes ++ boundary ≠ [] := List.cons_ne_nil _ _
  have hcut' := cutAt?_append hne (not_infix_append_dropLast hdelimiter hdata) rest
  rw [partsAfter, if_neg (by simp [newline]), if_neg (by simp [newline, dashes])]
  split
  · next h => rw [hend] at h; cases h
  · next h =>
    rw [hend] at h
    cases h
    split
    · next h => rw [hcut] at h; cases h
    · next h =>
      rw [hcut] at h
      cases h
      rw [hheaders]
      dsimp only
      rw [if_neg (Nat.not_le.mpr hroom)]
      split
      · next h => rw [hcut'] at h; cases h
      · next h =>
        rw [hcut'] at h
        cases h
        rfl

end Accord.Multipart
