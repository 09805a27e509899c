import Accord.Proofs.Negotiation.Excluding
import Accord.Proofs.Negotiation.Rereading

namespace Accord

namespace MediaType

variable {m : MediaType} {key part : String}

theorem eq_star_of_toLower {c : Char} (h : c.toLower = '*') : c = '*' := by
  rcases Text.toLower_cases c with hsame | ⟨hfirst, -, hshift⟩
  · rw [← hsame, h]
  · have hcode : c.toLower.toNat = 42 := by rw [h]; rfl
    omega

theorem contains_eq_false_iff : Text.contains '*' key = false ↔ '*' ∉ key.toList := by
  rw [Text.contains, ← Bool.not_eq_true, List.contains_iff_mem]

theorem star_not_mem_read (h : Text.contains '*' key = false) :
    '*' ∉ (read key).main.toList ∧ '*' ∉ (read key).sub.toList := by
  refine not_or.mp fun hstar => ?_
  obtain ⟨d, hd, hlower⟩ := exists_of_mem_read hstar
  exact contains_eq_false_iff.mp h (eq_star_of_toLower hlower ▸ hd)

/-- A part of a type that is a star, or holds none: some part without a star agrees with it. -/
def Open (part : String) : Prop := part ≠ "" ∧ (part = "*" ∨ '*' ∉ part.toList)

instance : Decidable (Open part) := inferInstanceAs (Decidable (_ ∧ _))

/-- Types without a star, and with another name, fall into the range. -/
def SpansPlain (m : MediaType) : Prop :=
  Open m.main ∧ Open m.sub ∧ (m.main = "*" ∨ m.sub = "*")

instance : Decidable m.SpansPlain := inferInstanceAs (Decidable (_ ∧ _))

theorem open_of_compatible {other : String} (hplain : '*' ∉ other.toList) (hpart : part ≠ "")
    (h : compatible other part = true) : Open part ∧ (part = "*" ∨ part = other) := by
  rcases compatible_iff.mp h with rfl | rfl | rfl
  · exact ⟨⟨hpart, .inr hplain⟩, .inr rfl⟩
  · exact absurd (by decide) hplain
  · exact ⟨⟨hpart, .inl rfl⟩, .inl rfl⟩

/-- If a text without a star falls into a type of another name, the type is a range of such. -/
theorem spansPlain_of_fits (plain : Text.contains '*' key = false)
    (other : (read key).essence ≠ m.essence) (h : (read key).fits m = true) : m.SpansPlain := by
  obtain ⟨hmain, hsub⟩ := star_not_mem_read plain
  obtain ⟨-, hpartMain, hpartSub⟩ := parts_of_fits h
  obtain ⟨hagreeMain, hagreeSub, -⟩ := of_fits h
  obtain ⟨hopenMain, hmainCases⟩ := open_of_compatible hmain hpartMain hagreeMain
  obtain ⟨hopenSub, hsubCases⟩ := open_of_compatible hsub hpartSub hagreeSub
  refine ⟨hopenMain, hopenSub, ?_⟩
  rcases hmainCases with hstar | hsame
  · exact .inl hstar
  · refine .inr (hsubCases.resolve_right fun hsame' => other ?_)
    rw [essence, essence, hsame, hsame']

def plainPart (part : String) : String := if part = "*" then "a" else part

theorem plainPart_of {P : String → Prop} (letter : P "a") (same : P part) : P (plainPart part) := by
  unfold plainPart
  split
  · exact letter
  · exact same

theorem plainPart_of_open (h : Open part) :
    plainPart part ≠ "" ∧ '*' ∉ (plainPart part).toList ∧
      compatible (plainPart part) part = true := by
  unfold plainPart
  split
  · next hstar =>
    subst hstar
    decide
  · next hother => exact ⟨h.1, h.2.resolve_left hother, compatible_iff.mpr (.inl rfl)⟩

def plainMember (m : MediaType) : MediaType := ⟨plainPart m.main, plainPart m.sub, []⟩

theorem Parts.plainMember (h : m.Parts) : m.plainMember.Parts := by
  have hchars : "a".toList = ['a'] := rfl
  have hletter : Text.Trimmed "a".toList := by
    rw [hchars]
    constructor <;> (intro c hc; cases hc; decide)
  have hplain : ∀ c ∈ "a".toList, c.toLower = c ∧ c ≠ ';' ∧ c ≠ '/' := by
    rw [hchars]
    exact List.forall_mem_singleton.mpr (by decide)
  refine ⟨?_, ?_, ?_, ?_⟩
  · exact plainPart_of (P := fun s => Text.Trimmed s.toList) hletter h.main_trimmed
  · exact plainPart_of (P := fun s => Text.Trimmed s.toList) hletter h.sub_trimmed
  · exact plainPart_of (P := fun s => ∀ c ∈ s.toList, c.toLower = c ∧ c ≠ ';' ∧ c ≠ '/') hplain
      h.main_plain
  · exact plainPart_of (P := fun s => ∀ c ∈ s.toList, c.toLower = c ∧ c ≠ ';')
      (fun c hc => ⟨(hplain c hc).1, (hplain c hc).2.1⟩) h.sub_plain

theorem star_mem_essence (h : m.main = "*" ∨ m.sub = "*") : '*' ∈ m.essence.toList := by
  have hstar : '*' ∈ "*".toList := by decide
  rw [toList_essence, List.mem_append, List.mem_cons]
  rcases h with h | h
  · exact .inl (h ▸ hstar)
  · exact .inr (.inr (h ▸ hstar))

theorem fits_of_parts {n : MediaType} (hm : m.main ≠ "" ∧ m.sub ≠ "") (hn : n.main ≠ "" ∧ n.sub ≠ "")
    (hmain : compatible m.main n.main = true) (hsub : compatible m.sub n.sub = true)
    (hmine : m.params = []) (htheirs : n.params = []) : m.fits n = true := by
  have hnone : ∀ {k : MediaType}, k.params = [] → k.rangeParams = [] := by
    intro k hk
    rw [rangeParams, hk, List.filter_nil]
  have hparts : ¬(m.main.isEmpty || n.main.isEmpty || m.sub.isEmpty || n.sub.isEmpty) = true := by
    simp only [Bool.or_eq_true, String.isEmpty_iff, hm.1, hm.2, hn.1, hn.2, or_self,
      not_false_eq_true]
  simp only [fits, if_neg hparts, hmain, hsub, hnone hmine, hnone htheirs]
  rfl

theorem SpansPlain.catches (h : m.SpansPlain) (parts : m.Parts) :
    Text.contains '*' m.plainMember.essence = false ∧
      (read m.plainMember.essence).essence ≠ m.essence ∧
      Binary64.zero < (read m.plainMember.essence).quality ∧
      (read m.plainMember.essence).fits (read m.essence) = true := by
  obtain ⟨hmain, hsub, hstar⟩ := h
  obtain ⟨hmainPart, hmainPlain, hmainAgrees⟩ := plainPart_of_open hmain
  obtain ⟨hsubPart, hsubPlain, hsubAgrees⟩ := plainPart_of_open hsub
  have hplain : '*' ∉ m.plainMember.essence.toList := by
    rw [toList_essence, List.mem_append, List.mem_cons]
    simp [plainMember, hmainPlain, hsubPlain]
  have hwanted : Binary64.zero < Binary64.one := by decide +kernel
  rw [parts.plainMember.read_essence, parts.read_essence]
  refine ⟨contains_eq_false_iff.mpr hplain, fun he => hplain ?_, hwanted, ?_⟩
  · have hsame : m.plainMember.essence = m.essence := he
    exact hsame ▸ star_mem_essence hstar
  · exact fits_of_parts ⟨hmainPart, hsubPart⟩ ⟨hmain.1, hsub.1⟩ hmainAgrees hsubAgrees rfl rfl

end MediaType

namespace BodyParsers

open MediaType

variable {parsers : BodyParsers} {request : Request} {raw essence : String}

/-- A parser that stands under a key with a star is chosen, or the type is refused. -/
def LeftToStars (parsers : BodyParsers) (request : Request) (essence : String) : Prop :=
  (∃ key p, (key, p) ∈ parsers ∧ Text.contains '*' key = true ∧ parsers.choose request = .ok p) ∨
    parsers.choose request = .error (parsers.unsupported essence)

theorem leftToStars_of_not_spansPlain (typed : request.contentType? = some (read raw).essence)
    (unnamed : ∀ key ∈ parsers.names, ¬NamesType (read raw).essence key)
    (h : ¬(read raw).SpansPlain) : parsers.LeftToStars request (read raw).essence := by
  cases hchosen : parsers.forType? (read raw).essence with
  | none =>
    refine .inr ?_
    rw [choose, typed]
    dsimp only
    rw [hchosen]
  | some p =>
    obtain ⟨before, key, after, hsplit, hdecides⟩ := forType?_eq_some_iff.mp hchosen
    have hmem : (key, p) ∈ parsers := hsplit ▸ List.mem_append_right before List.mem_cons_self
    refine .inl ⟨key, p, hmem, ?_, (choose_of_typed typed).mpr hchosen⟩
    cases hdecides with
    | named names => exact absurd names (unnamed key (List.mem_map_of_mem hmem))
    | caught _ own catches =>
      by_contra hstar
      have hplain := Bool.eq_false_iff.mpr hstar
      have hother : (read key).essence ≠ (read (read raw).essence).essence :=
        fun he => own ⟨hplain, he.trans (essence_read_essence raw)⟩
      have hspans := spansPlain_of_fits hplain hother catches.2
      rw [(parts_read raw).read_essence] at hspans
      exact h hspans

/-- Types that no key names are left to keys with a star by all parsers, exactly if the type of the
request is no range into which types without a star fall. -/
theorem unnamed_left_to_stars_iff (typed : request.header? "content-type" = some raw)
    (said : (Text.trim raw).isEmpty = false) :
    (∀ parsers : BodyParsers, (∀ key ∈ parsers.names, ¬NamesType (read raw).essence key) →
      parsers.LeftToStars request (read raw).essence) ↔ ¬(read raw).SpansPlain := by
  have hessence := contentType?_of_said typed said
  constructor
  · intro h hspans
    obtain ⟨hplain, hother, hwanted, hfits⟩ := hspans.catches (parts_read raw)
    have hunnamed : ∀ key ∈ Named.names [((read raw).plainMember.essence, BodyParser.json)],
        ¬NamesType (read raw).essence key := by
      intro key hkey hnames
      rw [List.mem_singleton.mp hkey] at hnames
      exact hother hnames.2
    have hchosen : forType? (read raw).essence [((read raw).plainMember.essence, .json)] =
        some .json := by
      refine forType?_eq_some_iff.mpr ⟨[], _, [], rfl, .caught ?_ ?_ ⟨hwanted, hfits⟩ ?_ ?_⟩
      · exact fun e he => (nomatch he)
      · exact hunnamed _ List.mem_cons_self
      · exact fun e he => (nomatch he)
      · exact fun e he => (nomatch he)
    rcases h _ hunnamed with ⟨key, p, hmem, hstar, -⟩ | hrefused
    · obtain ⟨hkey, -⟩ := Prod.mk.inj (List.mem_singleton.mp hmem)
      exact Bool.false_ne_true ((hkey ▸ hplain).symm.trans hstar)
    · exact nomatch ((choose_of_typed hessence).mpr hchosen).symm.trans hrefused
  · exact fun h parsers unnamed => leftToStars_of_not_spansPlain hessence unnamed h

theorem plain_note_left_to_star :
    rangeFirst.LeftToStars (noteOf "Text/Plain; charset=utf-8")
      (read "Text/Plain; charset=utf-8").essence := by
  have htyped : (noteOf "Text/Plain; charset=utf-8").header? "content-type" =
    some "Text/Plain; charset=utf-8" := by decide +kernel
  have hsaid : (Text.trim "Text/Plain; charset=utf-8").isEmpty = false := by decide +kernel
  have hspans : ¬(read "Text/Plain; charset=utf-8").SpansPlain := by decide +kernel
  exact (unnamed_left_to_stars_iff htyped hsaid).mpr hspans rangeFirst (by decide +kernel)

/-- A body that is declared as any application type is read as JSON, the one type for which there is a
parser. -/
theorem range_taken_for_json :
    let parsers : BodyParsers := [("application/json", .json)]
    (noteOf "application/*").header? "content-type" = some "application/*" ∧
      (∀ key ∈ parsers.names, ¬NamesType (read "application/*").essence key) ∧
      parsers.choose (noteOf "application/*") = .ok .json ∧
      ¬parsers.LeftToStars (noteOf "application/*") (read "application/*").essence := by
  have htyped : (noteOf "application/*").header? "content-type" = some "application/*" := by
    decide +kernel
  have hsaid : (Text.trim "application/*").isEmpty = false := by decide +kernel
  have hdecides : Decides (read "application/*").essence [] "application/json" [] :=
    .caught (fun _ he => (nomatch he)) (by decide +kernel) (by decide +kernel)
      (fun _ he => (nomatch he)) fun _ he => (nomatch he)
  have hchosen : choose [("application/json", .json)] (noteOf "application/*") = .ok .json :=
    (choose_of_typed (contentType?_of_said htyped hsaid)).mpr
      (forType?_eq_some_iff.mpr ⟨[], _, [], rfl, hdecides⟩)
  have hplain : Text.contains '*' "application/json" = false := by decide +kernel
  refine ⟨htyped, by decide +kernel, hchosen, ?_⟩
  rintro (⟨key, p, hmem, hstar, -⟩ | hrefused)
  · obtain ⟨hkey, -⟩ := Prod.mk.inj (List.mem_singleton.mp hmem)
    exact Bool.false_ne_true ((hkey ▸ hplain).symm.trans hstar)
  · exact nomatch hchosen.symm.trans hrefused

end BodyParsers

end Accord
