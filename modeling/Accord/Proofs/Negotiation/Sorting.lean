import Accord.Proofs.Doubles
import Accord.Proofs.Negotiation.Preferring

namespace Accord.MediaType

variable {l m n : MediaType}

def rating (m : MediaType) : Double :=
  (((m.params.lookup "q").bind Text.double?).filter fun q =>
    (Double.finite .zero).atMost q && q.atMost (.finite .one)).getD (.finite .one)

/-- Which of two types comes first: the more specific one, and of these the one with the higher rating.
Ratings that do not compare count as equal. -/
def precedence (m n : MediaType) : Ordering :=
  (compare n.specificity m.specificity).then ((n.rating.compare? m.rating).getD .eq)

theorem rating_eq (m : MediaType) : m.rating = .finite m.quality := by
  unfold rating quality
  cases m.params.lookup "q" with
  | none => rfl
  | some text =>
    rw [Option.bind_some, Option.bind_some, Text.binary64?_eq]
    cases Text.double? text with
    | none => rfl
    | some q =>
      cases q with
      | nan => rfl
      | infinite negative => cases negative <;> rfl
      | finite x =>
        have hbounds : ((Double.finite .zero).atMost (.finite x) &&
            (Double.finite x).atMost (.finite .one)) = true ↔
              Binary64.zero ≤ x ∧ x ≤ Binary64.one := by
          rw [Bool.and_eq_true, Double.atMost_finite, Double.atMost_finite]
        rw [Option.filter_some]
        simp only [hbounds, Option.bind_some, Double.finite?]
        split <;> rfl

example : ∀ raw ∈ ["text/html;q=NaN", "text/html;q=inf", "text;q=-1", "text/html;q=0.5;q=", "*/*;q=\"2\""],
    (read raw).rating = .finite .one := by decide +kernel

theorem quality_le_one (m : MediaType) : m.quality ≤ Binary64.one := by
  unfold quality
  split
  · split
    · next hrange => exact hrange.2
    · exact Int.le_refl _
  · exact Int.le_refl _

theorem precedence_eq (m n : MediaType) : m.precedence n =
    (compare n.specificity m.specificity).then (compare n.quality.signed m.quality.signed) := by
  rw [precedence, rating_eq, rating_eq, Double.compare?_finite, Option.getD_some]

theorem precedes_iff_isLE : m.precedes n = true ↔ (m.precedence n).isLE = true := by
  rw [precedes_iff, precedence_eq, Ordering.isLE_then_iff_or, Nat.compare_eq_lt, Nat.compare_eq_eq,
    Int.isLE_compare]
  exact or_congr_right (and_congr_left fun _ => eq_comm)

theorem transCmp_precedence : Std.TransCmp precedence where
  eq_swap {m n} := by
    rw [precedence_eq, precedence_eq, Ordering.swap_then, Nat.compare_swap, Int.compare_swap]
  isLE_trans {l m n} hlm hmn := by
    rw [← precedes_iff_isLE] at hlm hmn ⊢
    exact precedes_trans hlm hmn

def wanted (types : List String) : List MediaType :=
  (types.map read).filter fun m => decide (Binary64.zero < m.quality)

/-- Whatever is written as types and as their qualities, each quality is a number from zero to one, so that
the comparison by precedence is a total preorder. The types that are wanted are sorted by it, so that none
is of a lower rank than a later one, and those of one rank are left in the order in which they come. -/
theorem sorted_by_rank (types : List String) :
    (∀ m : MediaType, m.rating = .finite m.quality ∧
      Binary64.zero ≤ m.quality ∧ m.quality ≤ Binary64.one) ∧
    Std.TransCmp precedence ∧
    byPrecedence types = (wanted types).mergeSort (fun m n => (m.precedence n).isLE) ∧
    (byPrecedence types).Perm (wanted types) ∧
    (byPrecedence types).Pairwise (fun m n => n.rank ≤ m.rank) ∧
    ∀ rank, ofRank rank (byPrecedence types) = ofRank rank (wanted types) := by
  have hsort : byPrecedence types = (wanted types).mergeSort precedes := rfl
  have hordered : ((wanted types).mergeSort precedes).Pairwise fun m n => m.precedes n = true := by
    refine List.pairwise_mergeSort ?_ precedes_total (wanted types)
    exact fun _ _ _ => precedes_trans
  refine ⟨fun m => ⟨rating_eq m, quality_nonneg m, quality_le_one m⟩, transCmp_precedence, ?_, ?_, ?_,
    fun rank => ofRank_mergeSort rank (wanted types)⟩
  · have hle : precedes = fun m n => (m.precedence n).isLE :=
      funext fun m => funext fun n => Bool.eq_iff_iff.mpr precedes_iff_isLE
    rw [hsort, hle]
  · exact List.mergeSort_perm (wanted types) precedes
  · exact hordered.imp precedes_iff_rank_le.mp

end Accord.MediaType
