import Accord.Proofs.Bytes
import Accord.Proofs.Multipart.Finding

namespace Accord.Multipart

variable {bytes word rest start before behind : Bytes} {b : UInt8}

def isWordByte (b : UInt8) : Bool := !isSpacing b && b != 59 && b != 61 && b != 34 && b != 92

theorem of_isWordByte (h : isWordByte b = true) : isSpacing b = false ∧ b ≠ 59 ∧ b ≠ 61 ∧ b ≠ 34 ∧ b ≠ 92 := by
  simpa [isWordByte, and_assoc] using h

theorem takeQuoted_append (acc : Bytes) (hword : ∀ b ∈ word, isWordByte b = true) (rest : Bytes) :
    takeQuoted acc (word ++ 34 :: rest) = some (acc.reverse ++ word) := by
  induction word generalizing acc with
  | nil => simp [takeQuoted]
  | cons b word ih =>
    obtain ⟨hb, hword⟩ := List.forall_mem_cons.mp hword
    obtain ⟨-, -, -, hquote, hslash⟩ := of_isWordByte hb
    rw [List.cons_append, takeQuoted.eq_4 acc b _ (fun _ h => absurd h hslash) (fun h => absurd h hquote), ih _ hword]
    simp

theorem attributeValue?_quoted (hword : ∀ b ∈ word, isWordByte b = true) (rest : Bytes) :
    attributeValue? (61 :: 34 :: (word ++ 34 :: rest)) = some word :=
  takeQuoted_append [] hword rest

theorem attributeValue?_word (hword : ∀ b ∈ word, isWordByte b = true) (rest : Bytes) :
    attributeValue? (word ++ 34 :: rest) = none := by
  cases word with
  | nil => rfl
  | cons b word =>
    obtain ⟨hspacing, -, hequals, -⟩ := of_isWordByte (hword b List.mem_cons_self)
    unfold attributeValue?
    rw [List.cons_append, List.dropWhile_cons_of_neg (by simp [hspacing])]
    split
    · next h => exact absurd (List.cons.inj h).1 hequals
    · rfl

theorem twice_infix_iff {c : UInt8} {tail : Bytes} (hhead : c ∉ tail)
    (first : ¬c :: tail <:+: before ++ (c :: tail).dropLast) (behind : Bytes) :
    (c :: tail) ++ (c :: tail) <:+: before ++ ((c :: tail) ++ behind) ↔
      c :: tail <+: behind ∨ (c :: tail) ++ (c :: tail) <:+: behind := by
  generalize hpattern : c :: tail = pattern at *
  constructor
  · rintro ⟨front, more, hplaces⟩
    rw [List.append_assoc, List.append_assoc] at hplaces
    rcases List.append_eq_append_iff.mp hplaces with ⟨between, rfl, hbetween⟩ | ⟨between, rfl, hbetween⟩
    · cases between with
      | nil => exact .inl ⟨more, List.append_cancel_left hbetween⟩
      | cons d between =>
        -- then the pattern would begin before its first place
        have hfront := (prefix_dropLast_iff d between pattern behind).mp ⟨_, hbetween⟩
        rw [List.append_assoc] at first
        exact absurd (hfront.isInfix.trans (List.suffix_append front _).isInfix) first
    · rcases List.append_eq_append_iff.mp hbetween with ⟨skipped, -, hskipped⟩ | ⟨overlap, hoverlap, hbehind⟩
      · refine .inr ⟨skipped, more, ?_⟩
        rw [List.append_assoc, List.append_assoc]
        exact hskipped.symm
      · cases overlap with
        | nil => exact .inl ⟨_, hbehind⟩
        | cons d overlap =>
          cases between with
          | nil =>
            rw [List.nil_append] at hbetween
            exact .inl ⟨more, (List.append_cancel_left hbetween).symm⟩
          | cons e between =>
            -- the two places would overlap, and the head of the pattern would stand in its tail
            rw [← hpattern] at hoverlap hbehind
            obtain ⟨-, rfl⟩ := List.cons.inj hoverlap
            obtain ⟨rfl, -⟩ := List.cons.inj hbehind
            exact absurd (List.mem_append_right _ List.mem_cons_self) hhead
  · rintro (⟨more, rfl⟩ | ⟨front, more, rfl⟩)
    · refine ⟨before, more, ?_⟩
      simp only [List.append_assoc]
    · refine ⟨before ++ pattern ++ front, more, ?_⟩
      simp only [List.append_assoc]

section Searching

variable {c : UInt8} {tail : Bytes} {fuel : Nat}

theorem findAttribute?_succ (fuel : Nat) (name bytes : Bytes) :
    findAttribute? (fuel + 1) name bytes =
      (cutAt? name bytes).bind fun cut =>
        if cut.1.getLast?.all fun b => isSpacing b || b == 59 then (attributeValue? cut.2).bind Text.ofUtf8?
        else findAttribute? fuel name cut.2 := rfl

theorem findAttribute?_past (hquote : 34 ∉ c :: tail) (habsent : cutAt? (c :: tail) bytes = none)
    (hrest : ∀ cut, cutAt? (c :: tail) rest = some cut → cut.1.getLast? = some 32) (fuel : Nat) :
    findAttribute? (fuel + 1) (c :: tail) (bytes ++ 34 :: rest) =
      (cutAt? (c :: tail) rest).bind fun cut => (attributeValue? cut.2).bind Text.ofUtf8? := by
  rw [findAttribute?_succ, cutAt?_append_cons (List.cons_ne_nil c tail) hquote, habsent]
  cases hfound : cutAt? (c :: tail) rest with
  | none => rfl
  | some cut =>
    obtain ⟨before, behind⟩ := cut
    have hlast : (bytes ++ 34 :: before).getLast? = some 32 := by
      rw [List.getLast?_append, List.getLast?_cons, hrest _ hfound]
      rfl
    simp only [Option.map_some, Option.bind_some, hlast]
    rfl

theorem findAttribute?_on (hquote : 34 ∉ c :: tail) (hcut : cutAt? (c :: tail) bytes = some (before, behind))
    (hlast : (before.getLast?.all fun b => isSpacing b || b == 59) = false) (fuel : Nat) (rest : Bytes) :
    findAttribute? (fuel + 1) (c :: tail) (bytes ++ 34 :: rest) =
      findAttribute? fuel (c :: tail) (behind ++ 34 :: rest) := by
  rw [findAttribute?_succ, cutAt?_append_cons (List.cons_ne_nil c tail) hquote, hcut]
  dsimp only
  rw [Option.bind_some, hlast, if_neg Bool.false_ne_true]

theorem getLast?_all_of_word (hword : ∀ b ∈ before, isWordByte b = true) (hne : before ≠ []) (front : Bytes) :
    ((front ++ before).getLast?.all fun b => isSpacing b || b == 59) = false := by
  obtain ⟨hspacing, hsemicolon, -⟩ := of_isWordByte (hword _ (List.getLast_mem hne))
  rw [List.getLast?_append_of_ne_nil _ hne, List.getLast?_eq_some_getLast hne, Option.all_some, hspacing,
    beq_eq_false_iff_ne.mpr hsemicolon, Bool.or_self]

theorem findAttribute?_behind (hhead : c ∉ tail) (hquote : 34 ∉ c :: tail) (hword : ∀ b ∈ word, isWordByte b = true)
    (hrest : ∀ cut, cutAt? (c :: tail) rest = some cut → cut.1.getLast? = some 32) (hfuel : word.length < fuel) :
    findAttribute? fuel (c :: tail) (word ++ 34 :: rest) =
      if c :: tail <+: word ∨ (c :: tail) ++ (c :: tail) <:+: word then none
      else (cutAt? (c :: tail) rest).bind fun cut => (attributeValue? cut.2).bind Text.ofUtf8? := by
  have hne : c :: tail ≠ [] := List.cons_ne_nil c tail
  induction fuel generalizing word with
  | zero => exact absurd hfuel (Nat.not_lt_zero _)
  | succ fuel ih =>
    cases hcut : cutAt? (c :: tail) word with
    | none =>
      have habsent := (cutAt?_eq_none_iff hne).mp hcut
      have hnot : ¬(c :: tail <+: word ∨ (c :: tail) ++ (c :: tail) <:+: word) := fun h =>
        h.elim (fun h => habsent h.isInfix) fun h => habsent ((List.prefix_append _ _).isInfix.trans h)
      rw [if_neg hnot]
      exact findAttribute?_past hquote hcut hrest fuel
    | some cut =>
      obtain ⟨before, behind⟩ := cut
      obtain ⟨rfl, first⟩ := of_cutAt? hne hcut
      obtain ⟨hbefore, hbehind⟩ := List.forall_mem_append.mp hword
      replace hbehind := (List.forall_mem_append.mp hbehind).2
      cases before with
      | nil =>
        -- the place at the front is taken, and what stands behind it is no value
        rw [findAttribute?_succ, cutAt?_append_cons hne hquote, hcut, List.nil_append,
          if_pos (.inl (List.prefix_append _ _))]
        simp [attributeValue?_word hbehind]
      | cons b before =>
        have hnot : ¬c :: tail <+: b :: before ++ (c :: tail ++ behind) := fun hstart =>
          first ((prefix_dropLast_iff b before _ behind).mp hstart).isInfix
        have hlength : behind.length < fuel := by
          simp only [List.length_append, List.length_cons] at hfuel
          omega
        rw [findAttribute?_on hquote hcut (getLast?_all_of_word hbefore (List.cons_ne_nil b before) []),
          ih hbehind hlength]
        simp only [hnot, false_or, twice_infix_iff hhead first]

/-- The search past a word in quotes finds what stands behind it, unless the word holds the name twice in a row. -/
theorem findAttribute?_quoted (hhead : c ∉ tail) (hquote : 34 ∉ c :: tail) (hstart : cutAt? (c :: tail) start = none)
    (hword : ∀ b ∈ word, isWordByte b = true)
    (hrest : ∀ cut, cutAt? (c :: tail) rest = some cut → cut.1.getLast? = some 32) (hfuel : word.length < fuel) :
    findAttribute? (fuel + 1) (c :: tail) (start ++ 34 :: (word ++ 34 :: rest)) =
      if (c :: tail) ++ (c :: tail) <:+: word then none
      else (cutAt? (c :: tail) rest).bind fun cut => (attributeValue? cut.2).bind Text.ofUtf8? := by
  have hne : c :: tail ≠ [] := List.cons_ne_nil c tail
  have hfound : cutAt? (c :: tail) (start ++ 34 :: word) =
      (cutAt? (c :: tail) word).map fun cut => (start ++ 34 :: cut.1, cut.2) := by
    rw [cutAt?_append_cons hne hquote, hstart]
  have hassoc : start ++ 34 :: (word ++ 34 :: rest) = (start ++ 34 :: word) ++ 34 :: rest := by simp
  rw [hassoc]
  cases hcut : cutAt? (c :: tail) word with
  | none =>
    have habsent := (cutAt?_eq_none_iff hne).mp hcut
    rw [if_neg fun h => habsent ((List.prefix_append _ _).isInfix.trans h)]
    rw [hcut, Option.map_none] at hfound
    exact findAttribute?_past hquote hfound hrest fuel
  | some cut =>
    obtain ⟨before, behind⟩ := cut
    obtain ⟨rfl, first⟩ := of_cutAt? hne hcut
    obtain ⟨hbefore, hbehind⟩ := List.forall_mem_append.mp hword
    replace hbehind := (List.forall_mem_append.mp hbehind).2
    rw [hcut, Option.map_some] at hfound
    have hlast : ((start ++ 34 :: before).getLast?.all fun b => isSpacing b || b == 59) = false := by
      cases before with
      | nil => simp [isSpacing]
      | cons b before =>
        have hsplit : start ++ 34 :: b :: before = (start ++ [34]) ++ b :: before := by simp
        rw [hsplit]
        exact getLast?_all_of_word hbefore (List.cons_ne_nil b before) _
    have hlength : behind.length < fuel := by
      simp only [List.length_append] at hfuel
      omega
    rw [findAttribute?_on hquote hfound hlast, findAttribute?_behind hhead hquote hbehind hrest hlength]
    simp only [twice_infix_iff hhead first]

end Searching

end Accord.Multipart
