import Accord.Double
import Accord.Proofs.Text
import Accord.Text.Number

namespace Accord

namespace Double

variable {x y z : Double}

theorem compare?_finite (x y : Binary64) :
    (finite x).compare? (finite y) = some (compare x.signed y.signed) := rfl

theorem atMost_finite {x y : Binary64} : (finite x).atMost (finite y) = true ↔ x ≤ y := by
  rw [atMost, compare?_finite, Option.any_some, Int.isLE_compare]
  exact Iff.rfl

theorem place?_eq_none_iff : x.place? = none ↔ x = nan := by
  cases x <;> simp [place?]

theorem compare?_congr (h : y.place? = z.place?) (x : Double) :
    x.compare? y = x.compare? z ∧ y.compare? x = z.compare? x := by
  simp only [compare?, h, and_self]

theorem sameValue_iff : x.sameValue y = true ↔ x.place? = y.place? ∧ x ≠ nan := by
  rw [ne_eq, ← place?_eq_none_iff, sameValue, compare?]
  rcases x.place? with _ | ⟨side, value⟩
  · simp
  · rcases y.place? with _ | ⟨side', value'⟩
    · simp
    · simp [Ordering.isEq_iff_eq_eq, Ordering.then_eq_eq]

theorem sameValue_refl (h : x ≠ nan) : x.sameValue x = true := sameValue_iff.mpr ⟨rfl, h⟩

theorem sameValue_symm (h : x.sameValue y = true) : y.sameValue x = true := by
  obtain ⟨hplace, hx⟩ := sameValue_iff.mp h
  refine sameValue_iff.mpr ⟨hplace.symm, fun hy => hx ?_⟩
  rw [← place?_eq_none_iff, hplace, place?_eq_none_iff, hy]

theorem sameValue_trans (h : x.sameValue y = true) (h' : y.sameValue z = true) :
    x.sameValue z = true := by
  obtain ⟨hplace, hx⟩ := sameValue_iff.mp h
  exact sameValue_iff.mpr ⟨hplace.trans (sameValue_iff.mp h').1, hx⟩

theorem atMost_of_not_below (hx : x ≠ nan) (hy : y ≠ nan) (h : y.below x = false) :
    x.atMost y = true := by
  rw [ne_eq, ← place?_eq_none_iff] at hx hy
  obtain ⟨⟨side, value⟩, hplace⟩ := Option.ne_none_iff_exists'.mp hx
  obtain ⟨⟨side', value'⟩, hplace'⟩ := Option.ne_none_iff_exists'.mp hy
  simp only [below, atMost, compare?, hplace, hplace', Option.any_some] at h ⊢
  rw [← Int.compare_swap side' side, ← Int.compare_swap value' value, ← Ordering.swap_then]
  cases hcompare : (compare side' side).then (compare value' value) with
  | lt =>
    rw [hcompare] at h
    cases h
  | eq => rfl
  | gt => rfl

end Double

namespace Text

def decimal? (s : List Char) : Option (Nat × Int) :=
  let whole := s.takeWhile Char.isDigit
  let rest := s.dropWhile Char.isDigit
  let (fraction, rest) := match rest with
    | '.' :: rest => (rest.takeWhile Char.isDigit, rest.dropWhile Char.isDigit)
    | _ => ([], rest)
  if whole.isEmpty && fraction.isEmpty then none
  else (decimalExponent? rest).map fun exponent =>
    (digitsValue (whole ++ fraction), exponent - fraction.length)

/-- The double that a text writes, as a decimal number or in a word of any case. -/
def double? (s : String) : Option Double :=
  let (negative, rest) := takeSign s.toList
  let word := rest.map Char.toLower
  if word = ['n', 'a', 'n'] then some .nan
  else if word = ['i', 'n', 'f'] ∨ word = ['i', 'n', 'f', 'i', 'n', 'i', 't', 'y'] then
    some (.infinite negative)
  else (decimal? rest).map fun (digits, exponent) =>
    match Binary64.ofDecimal? negative digits exponent with
    | some x => .finite x
    | none => .infinite negative

theorem binary64?_eq_decimal (s : String) : binary64? s =
    (decimal? (takeSign s.toList).2).bind fun (digits, exponent) =>
      Binary64.ofDecimal? (takeSign s.toList).1 digits exponent := by
  have hbind : ∀ (empty : Bool) (exponent? : Option Int) (f : Int → Nat × Int)
      (g : Nat × Int → Option Binary64), (if empty then none else exponent?.bind fun e => g (f e)) =
        (if empty then none else exponent?.map f).bind g := by
    intro empty exponent? f g
    cases empty with
    | true => rfl
    | false => exact (Option.bind_map ..).symm
  refine Eq.trans ?_ (hbind _ _ _ _)
  rfl

theorem decimal?_of_word {s word : List Char} {c : Char} (h : s.map Char.toLower = c :: word)
    (letter : 97 ≤ c.toNat) : decimal? s = none := by
  cases s with
  | nil => cases h
  | cons d rest =>
    obtain ⟨hfirst, -⟩ := List.cons.inj h
    have hcode : 65 ≤ d.toNat := by
      rcases toLower_cases d with hsame | ⟨hupper, -⟩
      · rw [← hsame, hfirst]
        omega
      · exact hupper
    have hdigit : d.isDigit = false := by
      have hlast : ¬d.val ≤ 57 := fun hle => absurd (show d.toNat ≤ 57 from hle) (by omega)
      simp [Char.isDigit, hlast]
    have hpoint : d ≠ '.' := by
      rintro rfl
      exact absurd hcode (by decide)
    simp [decimal?, hdigit, hpoint]

theorem binary64?_eq (s : String) : binary64? s = (double? s).bind Double.finite? := by
  rw [binary64?_eq_decimal]
  unfold double?
  dsimp only
  split
  · next hword =>
    rw [decimal?_of_word hword (by decide)]
    rfl
  · split
    · next hword =>
      have hnone : decimal? (takeSign s.toList).2 = none := by
        rcases hword with hword | hword
        · exact decimal?_of_word hword (by decide)
        · exact decimal?_of_word hword (by decide)
      rw [hnone]
      rfl
    · cases decimal? (takeSign s.toList).2 with
      | none => rfl
      | some decimal =>
        simp only [Option.bind_some, Option.map_some]
        cases Binary64.ofDecimal? (takeSign s.toList).1 decimal.1 decimal.2 <;> rfl

end Text

end Accord
