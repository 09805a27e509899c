import Accord.Proofs.Doubles
import Accord.Proofs.Schema.Silence

namespace Accord

/-- At least the lower bound and at most the upper one, where there are such. -/
structure WithinBounds {α : Type} [LE α] (minimum maximum : Option α) (a : α) : Prop where
  atLeast : ∀ least, minimum = some least → least ≤ a
  atMost : ∀ most, maximum = some most → a ≤ most

namespace Schema

def MatchesPattern (pattern : Option String) (s : String) : Prop :=
  ∀ source, pattern = some source → ∃ e, Pattern.read source = .ok e ∧ e.occursIn s = true

mutual

/-- The value has the shape that the schema describes, as it is. -/
inductive Conforms : Schema → Json → Prop
  | any (v : Json) : Conforms .any v
  | null : Conforms .null .null
  | boolean (b : Bool) : Conforms .boolean (.bool b)
  | literal {expected v : Json} : v.same expected = true → Conforms (.literal expected) v
  | string {lo hi : Option UInt64} {pattern : Option String} {s : String} :
      WithinBounds (lo.map UInt64.toNat) (hi.map UInt64.toNat) s.length →
      MatchesPattern pattern s → Conforms (.string lo hi pattern) (.string s)
  | integer {lo hi : Option Int64} {n : Int} :
      -(signedLimit : Int) ≤ n → n < signedLimit →
      WithinBounds (lo.map Int64.toInt) (hi.map Int64.toInt) n →
      Conforms (.integer lo hi) (.int n)
  | number {lo hi : Option Double} {v : Json} {x : Binary64} :
      v.binary64? = some x → WithinBounds lo hi (.finite x) → Conforms (.number lo hi) v
  | array {items : Schema} {lo hi : Option UInt64} {vs : List Json} :
      WithinBounds (lo.map UInt64.toNat) (hi.map UInt64.toNat) vs.length →
      (∀ v ∈ vs, Conforms items v) → Conforms (.array items lo hi) (.array vs)
  | object {model : Model Schema} {members : List (String × Json)} :
      (∀ m ∈ members, FieldConforms model.fields m.1 m.2) →
      (∀ e ∈ model.fields, e.2.required = true ∨ e.2.fallback.isSome = true →
        e.1 ∈ members.map Prod.fst) →
      Conforms (.object model) (.object members)
  | absent (inner : Schema) : Conforms (.optional inner) .null
  | present {inner : Schema} {v : Json} : Conforms inner v → Conforms (.optional inner) v
  | union {s : Schema} {variants : List Schema} {v : Json} :
      s ∈ variants → Conforms s v → Conforms (.union variants) v
  | conditional {key : String} {s : Schema} {mapping : List (String × Schema)} {v : Json} :
      (key, s) ∈ mapping → Conforms s v → Conforms (.conditional mapping) v

inductive FieldConforms : List (String × Field Schema) → String → Json → Prop
  | declared {fields : List (String × Field Schema)} {name : String} {f : Field Schema} {v : Json} :
      (name, f) ∈ fields → Conforms f.schema v → FieldConforms fields name v

end

def OwnFallbacksConform : Schema → Prop
  | object model => ∀ e ∈ model.fields, ∀ v, e.2.fallback = some v → Conforms e.2.schema v
  | _ => True

/-- The fallback of every field, at any depth, conforms to the schema of the field. -/
def FallbacksConform (s : Schema) : Prop := Everywhere OwnFallbacksConform s

theorem withinBounds_map {α β : Type} [LE β] {f : α → β} {lo hi : Option α} {a : β}
    (hlo : ∀ b, lo = some b → f b ≤ a) (hhi : ∀ b, hi = some b → a ≤ f b) :
    WithinBounds (lo.map f) (hi.map f) a := by
  constructor
  · intro least h
    obtain ⟨b, hb, rfl⟩ := Option.map_eq_some_iff.mp h
    exact hlo b hb
  · intro most h
    obtain ⟨b, hb, rfl⟩ := Option.map_eq_some_iff.mp h
    exact hhi b hb

theorem withinBounds_of_textComplaints {lo hi : Option UInt64} {pattern : Option String}
    {s : String} (h : textComplaints lo hi pattern s = []) :
    WithinBounds (lo.map UInt64.toNat) (hi.map UInt64.toNat) s.length := by
  obtain ⟨hlengths, _⟩ := List.append_eq_nil_iff.mp h
  obtain ⟨hshort, hlong⟩ := List.append_eq_nil_iff.mp hlengths
  apply withinBounds_map
  · rintro least rfl
    simpa using hshort
  · rintro most rfl
    simpa using hlong

theorem matchesPattern_of_textComplaints {lo hi : Option UInt64} {pattern : Option String}
    {s : String} (h : textComplaints lo hi pattern s = []) : MatchesPattern pattern s := by
  obtain ⟨_, hform⟩ := List.append_eq_nil_iff.mp h
  rintro source rfl
  cases hr : Pattern.read source with
  | error refusal => simp [hr] at hform
  | ok e =>
    refine ⟨e, rfl, ?_⟩
    cases ho : e.occursIn s with
    | true => rfl
    | false => simp [hr, ho] at hform

theorem withinBounds_of_lengthComplaints {lo hi : Option UInt64} {n : Nat}
    (h : lengthComplaints lo hi n = []) :
    WithinBounds (lo.map UInt64.toNat) (hi.map UInt64.toNat) n := by
  obtain ⟨hshort, hlong⟩ := List.append_eq_nil_iff.mp h
  apply withinBounds_map
  · rintro least rfl
    simpa using hshort
  · rintro most rfl
    simpa using hlong

theorem withinBounds_of_integerComplaints {lo hi : Option Int64} {n : Int}
    (h : integerComplaints lo hi n = []) :
    WithinBounds (lo.map Int64.toInt) (hi.map Int64.toInt) n := by
  obtain ⟨hbelow, habove⟩ := List.append_eq_nil_iff.mp h
  apply withinBounds_map
  · rintro least rfl
    simpa using hbelow
  · rintro most rfl
    simpa using habove

theorem withinBounds_of_numberComplaints {lo hi : Option Double} {x : Binary64}
    (ordered : OwnBoundsOrdered (number lo hi)) (h : numberComplaints lo hi x = []) :
    WithinBounds lo hi (.finite x) := by
  obtain ⟨hbelow, habove⟩ := List.append_eq_nil_iff.mp h
  constructor
  · rintro least rfl
    have hkept : Double.below x least = false := by simpa using hbelow
    exact Double.atMost_of_not_below (fun h => ordered.1 (congrArg some h)) Double.noConfusion hkept
  · rintro most rfl
    have hkept : most.below x = false := by simpa using habove
    exact Double.atMost_of_not_below Double.noConfusion (fun h => ordered.2 (congrArg some h)) hkept

def InSignedRange (n : Int) : Prop := -(signedLimit : Int) ≤ n ∧ n < signedLimit

theorem inSignedRange_of_json {v : Json} {n : Int} (h : v.int64? = some n) : InSignedRange n := by
  cases v with
  | int k =>
    simp only [Json.int64?, Option.ite_none_right_eq_some, Option.some.injEq] at h
    exact h.2 ▸ h.1
  | _ => cases h

theorem inSignedRange_of_text {s : String} {n : Int} (h : Text.int64? s = some n) :
    InSignedRange n := by
  have hpos : (0 : Int) < signedLimit := by decide
  unfold Text.int64? at h
  cases hk : Text.natural? (Text.takeSign s.toList).2 with
  | none => simp [hk] at h
  | some k =>
    cases hsign : (Text.takeSign s.toList).1 with
    | true =>
      have hn : k ≤ signedLimit ∧ -(k : Int) = n := by simpa [hk, hsign] using h
      constructor <;> omega
    | false =>
      have hn : k < signedLimit ∧ (k : Int) = n := by simpa [hk, hsign] using h
      constructor <;> omega

theorem inSignedRange_of_truncate {x : Binary64}
    (h : x.units < integerLimit * Binary64.unitsOfOne) : InSignedRange x.truncate := by
  have hlimit : integerLimit < signedLimit := by decide
  have hdiv : x.units / Binary64.unitsOfOne < integerLimit :=
    Nat.div_lt_of_lt_mul (by rwa [Nat.mul_comm] at h)
  unfold Binary64.truncate
  generalize x.units / Binary64.unitsOfOne = whole at hdiv ⊢
  split <;> constructor <;> omega

theorem inSignedRange_of_toInteger {strict : Bool} {v : Json} {n : Int}
    (h : toInteger strict v = .ok n) : InSignedRange n := by
  unfold toInteger at h
  split at h
  · split at h
    · next hint =>
      cases h
      exact inSignedRange_of_json hint
    · split at h <;> cases h
  · split at h
    · cases h
    · split at h
      · cases h
      · split at h
        · next hsmall =>
          cases h
          exact inSignedRange_of_truncate hsmall
        · cases h
  · split at h
    · cases h
    · split at h
      · next htext =>
        cases h
        exact inSignedRange_of_text htext
      · cases h
  · cases h

theorem binary64_of_toNumber {strict : Bool} {v : Json} {x : Binary64}
    (h : toNumber strict v = .ok x) :
    (match v with
      | .int n => Json.int n
      | _ => .float x).binary64? = some x := by
  cases v with
  | int n =>
    cases h
    rfl
  | _ => rfl

theorem eq_of_unless_eq_ok {complaints : List Complaint} {v w : Json}
    (h : Verdict.unless complaints v = .ok w) : complaints = [] ∧ v = w := by
  unfold Verdict.unless at h
  split at h
  · next hc =>
    cases h
    exact ⟨List.isEmpty_iff.mp hc, rfl⟩
  · cases h

theorem conforms_of_leafVerdict {s : Schema} {v w : Json} {mode : Mode}
    (ordered : OwnBoundsOrdered s) (h : leafVerdict? mode v s = some (.ok w)) : Conforms s w := by
  cases s with
  | array | object | union | optional | conditional => cases h
  | any => exact .any w
  | null =>
    simp only [leafVerdict?, checkNull, Option.some.injEq] at h
    split at h <;> cases h
    exact .null
  | literal expected =>
    simp only [leafVerdict?, checkLiteral, Option.some.injEq] at h
    split at h <;> cases h
    next hsame => exact .literal hsame
  | string lo hi pattern =>
    simp only [leafVerdict?, checkString, Option.some.injEq] at h
    split at h
    · obtain ⟨hc, rfl⟩ := eq_of_unless_eq_ok h
      exact .string (withinBounds_of_textComplaints hc) (matchesPattern_of_textComplaints hc)
    · cases h
  | integer lo hi =>
    simp only [leafVerdict?, checkInteger, Option.some.injEq] at h
    split at h
    · next n hn =>
      obtain ⟨hc, rfl⟩ := eq_of_unless_eq_ok h
      obtain ⟨hleast, hmost⟩ := inSignedRange_of_toInteger hn
      exact .integer hleast hmost (withinBounds_of_integerComplaints hc)
    · cases h
  | number lo hi =>
    simp only [leafVerdict?, checkNumber, Option.some.injEq] at h
    split at h
    · next x hx =>
      obtain ⟨hc, rfl⟩ := eq_of_unless_eq_ok h
      exact .number (binary64_of_toNumber hx) (withinBounds_of_numberComplaints ordered hc)
    · cases h
  | boolean =>
    simp only [leafVerdict?, checkBoolean, Option.some.injEq] at h
    split at h <;> cases h
    exact .boolean _

theorem accepted_of_choiceOutcome {variants : List Schema} {v w : Json} {mode : Mode}
    (h : (choiceOutcome variants v mode).1 = some w) :
    ∃ s ∈ variants, (s.outcome v mode).1 = some w := by
  rw [choiceOutcome] at h
  cases hf : variants.findSome? fun s => accepted (s.outcome v mode) with
  | none => simp [hf] at h
  | some x =>
    obtain ⟨s, hs, hx⟩ := List.exists_of_findSome?_eq_some hf
    simp only [hf, Option.some.injEq] at h
    subst h
    exact ⟨s, hs, congrArg Prod.fst (accepted_eq_some.mp hx)⟩

theorem conforms_of_fieldOutcome {members : List (String × Json)} {mode : Mode} {name : String}
    {f : Field Schema} {w : Json}
    (hs : ∀ v w mode, (f.schema.outcome v mode).1 = some w → Conforms f.schema w)
    (hf : ∀ v, f.fallback = some v → Conforms f.schema v)
    (h : (fieldOutcome members mode name f).1 = some w) : Conforms f.schema w := by
  unfold fieldOutcome at h
  split at h
  · exact hs _ w mode h
  · split at h
    · next v hv =>
      cases h
      exact hf w hv
    · cases h

theorem fieldOutput_of_needed {members : List (String × Json)} {mode : Mode} {name : String}
    {f : Field Schema} (hc : ChoicesInhabited f.schema)
    (needed : f.required = true ∨ f.fallback.isSome = true)
    (hnil : (fieldOutcome members mode name f).2 = []) :
    ∃ w, (fieldOutcome members mode name f).1 = some w := by
  unfold fieldOutcome at hnil ⊢
  split at hnil
  · next v _ =>
    rcases accepts_or_details_of_choicesInhabited hc v mode with ⟨w, hw⟩ | ⟨_, hd⟩
    · exact ⟨w, congrArg Prod.fst hw⟩
    · exact absurd (by simpa [placed] using hnil) hd
  · split at hnil
    · next v _ => exact ⟨v, rfl⟩
    · next hfallback =>
      rcases needed with hrequired | hsome
      · simp [hrequired] at hnil
      · simp [hfallback] at hsome

theorem conforms_array {items : Schema} {lo hi : Option UInt64} {vs : List Json} {w : Json}
    {mode : Mode} (hitems : ∀ v w mode, (items.outcome v mode).1 = some w → Conforms items w)
    (h : ((array items lo hi).outcome (.array vs) mode).1 = some w) :
    Conforms (array items lo hi) w := by
  rw [outcome_array] at h
  obtain ⟨hlength, ws, ho, rfl⟩ := arrayOutcome_eq_some h
  refine .array ?_ fun x hx => ?_
  · rw [length_itemOutputs ho]
    exact withinBounds_of_lengthComplaints hlength
  · obtain ⟨u, _, hu⟩ := item_of_output ho hx
    exact hitems u x mode hu

theorem conforms_object {model : Model Schema} {members : List (String × Json)} {w : Json}
    {mode : Mode} (choices : ChoicesInhabited (object model))
    (fallbacks : OwnFallbacksConform (object model))
    (hfields : ∀ e ∈ model.fields, ∀ v w mode, (e.2.schema.outcome v mode).1 = some w →
      Conforms e.2.schema w)
    (h : ((object model).outcome (.object members) mode).1 = some w) :
    Conforms (object model) w := by
  rw [outcome_object] at h
  obtain ⟨rfl, hnil⟩ := objectOutcome_eq_some h
  refine .object (fun m hm => ?_) fun e he needed => ?_
  · obtain ⟨f, hmem, hout⟩ := mem_fieldOutputs.mp (Json.mem_of_mem_sortMembers hm)
    exact .declared hmem (conforms_of_fieldOutcome (hfields _ hmem) (fallbacks _ hmem) hout)
  -- A needed field without an output would have left a detail.
  · obtain ⟨x, hx⟩ := fieldOutput_of_needed ((everywhere_object.mp choices).2 e he) needed (hnil e he)
    exact Json.mem_keys_sortMembers.mpr
      (List.mem_map.mpr ⟨(e.1, x), mem_fieldOutputs.mpr ⟨e.2, he, hx⟩, rfl⟩)

theorem conforms_of_output {s : Schema} {v w : Json} {mode : Mode} (hc : ChoicesInhabited s)
    (hf : FallbacksConform s) (hb : BoundsOrdered s) (h : (s.outcome v mode).1 = some w) :
    Conforms s w := by
  induction s using partsInduction generalizing v w mode with
  | step s ih =>
  cases hleaf : leafVerdict? mode v s with
  | some verdict =>
    rw [outcome_leaf hleaf] at h
    cases verdict with
    | error complaints => cases h
    | ok x =>
      cases h
      exact conforms_of_leafVerdict hb.here hleaf
  | none =>
    have hparts : ∀ t ∈ s.parts, ∀ v w mode, (t.outcome v mode).1 = some w → Conforms t w :=
      fun t ht v w mode => ih t ht (hc.of_mem_parts ht) (hf.of_mem_parts ht) (hb.of_mem_parts ht)
    cases s with
    | any | null | literal | string | integer | number | boolean => cases hleaf
    | optional inner =>
      rw [outcome_optional] at h
      split at h
      · cases h
        exact .absent inner
      · exact .present (hparts inner List.mem_cons_self v w mode h)
    | array items lo hi =>
      cases v with
      | array vs => exact conforms_array (hparts items List.mem_cons_self) h
      | _ => cases h
    | object model =>
      cases v with
      | object members =>
        exact conforms_object hc hf.here (fun e he => hparts _ (List.mem_map.mpr ⟨e, he, rfl⟩)) h
      | _ => cases h
    | union variants =>
      rw [outcome_union] at h
      obtain ⟨t, ht, hout⟩ := accepted_of_choiceOutcome h
      exact .union ht (hparts t ht v w mode hout)
    | conditional mapping =>
      rw [outcome_conditional] at h
      obtain ⟨t, ht, hout⟩ := accepted_of_choiceOutcome h
      obtain ⟨⟨key, t⟩, he, rfl⟩ := List.mem_map.mp ht
      exact .conditional he (hparts t ht v w mode hout)

/-- Whatever a validation gives conforms to the schema, if every choice has a member, every fallback
conforms and no bound is NaN. -/
theorem conforms_of_validate {s : Schema} {v w : Json} {strict : Option Bool}
    (choices : ChoicesInhabited s) (fallbacks : FallbacksConform s) (ordered : BoundsOrdered s)
    (valid : s.validate v strict = .ok w) : Conforms s w := by
  rcases validate_eq_ok_iff.mp valid with ho | ⟨hover, _⟩
  · exact conforms_of_output choices fallbacks ordered (congrArg Prod.fst ho)
  · exact absurd hover (not_passedOver_of_choicesInhabited choices)

def orderForm : Schema :=
  .object {
    name := "Order"
    fields := [
      ("count", { schema := integer (some 1) none, alias? := some "n" }),
      ("price", { schema := number (some (.finite .zero)) (some (.infinite false)) }),
      ("note", {
        schema := union [null, string none (some 8) none]
        required := false
        fallback := some .null })] }

theorem validated_order_conforms :
    orderForm.validate (.object [("n", .string " 7 "), ("price", .float .zero), ("x", .bool true)]) none =
      .ok (.object [("count", .int 7), ("note", .null), ("price", .float .zero)]) ∧
    Conforms orderForm (.object [("count", .int 7), ("note", .null), ("price", .float .zero)]) := by
  have valid :
      orderForm.validate (.object [("n", .string " 7 "), ("price", .float .zero), ("x", .bool true)]) none =
        .ok (.object [("count", .int 7), ("note", .null), ("price", .float .zero)]) := rfl
  have choices : ChoicesInhabited orderForm := by
    simp [ChoicesInhabited, orderForm, IsEmptyChoice]
  have fallbacks : FallbacksConform orderForm := by
    have hnote : Conforms (union [null, string none (some 8) none]) .null :=
      .union List.mem_cons_self .null
    simpa [FallbacksConform, orderForm, OwnFallbacksConform] using hnote
  have ordered : BoundsOrdered orderForm := by
    simp [BoundsOrdered, orderForm, OwnBoundsOrdered]
  exact ⟨valid, conforms_of_validate choices fallbacks ordered valid⟩

def unordered : Schema := number (some .nan) none

def zero : Schema := literal (.float .zero)

def minusZero : Json := .float Binary64.zero.negate

/-- No number is at least NaN, and yet none is refused for it; and a literal takes the other zero for
itself. -/
theorem accepted_out_of_shape :
    (ChoicesInhabited unordered ∧ FallbacksConform unordered ∧
      unordered.validate (.int 5) none = .ok (.int 5) ∧ ¬Conforms unordered (.int 5)) ∧
    ChoicesInhabited zero ∧ FallbacksConform zero ∧
      zero.validate minusZero none = .ok minusZero ∧ minusZero ≠ .float .zero := by
  have hnan : ¬Conforms unordered (.int 5) := by
    intro h
    cases h with
    | number _ hbounds => exact Bool.false_ne_true (hbounds.atLeast .nan rfl)
  refine ⟨⟨?_, ?_, rfl, hnan⟩, ?_, ?_, rfl, ?_⟩
  · simp [ChoicesInhabited, unordered, IsEmptyChoice]
  · simp [FallbacksConform, unordered, OwnFallbacksConform]
  · simp [ChoicesInhabited, zero, IsEmptyChoice]
  · simp [FallbacksConform, zero, OwnFallbacksConform]
  · simp [minusZero, Binary64.zero, Binary64.negate]

end Schema

end Accord
