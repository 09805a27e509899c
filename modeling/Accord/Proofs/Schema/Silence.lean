import Accord.Proofs.Json.Members
import Accord.Proofs.Schema.Outcome
import Mathlib.Data.List.Nodup

namespace Accord.Schema

def Accepts (mode : Mode) (s : Schema) (v : Json) : Prop := ∃ w, s.outcome v mode = (some w, [])

/-- A value that the schema neither accepts nor says anything about. -/
inductive PassedOver (mode : Mode) : Schema → Json → Prop
  | union {variants : List Schema} {v : Json} :
      (∀ s ∈ variants, PassedOver mode s v) → PassedOver mode (.union variants) v
  | conditional {mapping : List (String × Schema)} {v : Json} :
      (∀ e ∈ mapping, PassedOver mode e.2 v) → PassedOver mode (.conditional mapping) v
  | optional {inner : Schema} {v : Json} :
      v.isNull = false → PassedOver mode inner v → PassedOver mode (.optional inner) v
  | array {items : Schema} {lo hi : Option UInt64} {vs : List Json} {v : Json} :
      lengthComplaints lo hi vs.length = [] →
      (∀ w ∈ vs, (items.outcome w mode).2 = []) →
      v ∈ vs → PassedOver mode items v → PassedOver mode (.array items lo hi) (.array vs)

section PassedOver

variable {mode : Mode} {v : Json}

theorem passedOver_union_iff {variants : List Schema} :
    PassedOver mode (.union variants) v ↔ ∀ s ∈ variants, PassedOver mode s v := by
  refine ⟨fun h => ?_, .union⟩
  cases h with
  | union hvariants => exact hvariants

theorem passedOver_conditional_iff {mapping : List (String × Schema)} :
    PassedOver mode (.conditional mapping) v ↔ ∀ e ∈ mapping, PassedOver mode e.2 v := by
  refine ⟨fun h => ?_, .conditional⟩
  cases h with
  | conditional hmembers => exact hmembers

theorem passedOver_optional_iff {inner : Schema} :
    PassedOver mode (.optional inner) v ↔ v.isNull = false ∧ PassedOver mode inner v := by
  refine ⟨fun h => ?_, fun ⟨hn, hinner⟩ => .optional hn hinner⟩
  cases h with
  | optional hn hinner => exact ⟨hn, hinner⟩

theorem passedOver_array_iff {items : Schema} {lo hi : Option UInt64} {vs : List Json} :
    PassedOver mode (.array items lo hi) (.array vs) ↔ lengthComplaints lo hi vs.length = [] ∧
      (∀ w ∈ vs, (items.outcome w mode).2 = []) ∧ ∃ w ∈ vs, PassedOver mode items w := by
  refine ⟨fun h => ?_, fun ⟨hc, hdetails, w, hw, hover⟩ => .array hc hdetails hw hover⟩
  cases h with
  | array hc hdetails hw hover => exact ⟨hc, hdetails, _, hw, hover⟩

end PassedOver

theorem unless_ne_error_nil (complaints : List Complaint) (v : Json) :
    Verdict.unless complaints v ≠ .error [] := by
  unfold Verdict.unless
  split
  · exact fun h => nomatch h
  · next hc =>
    intro h
    cases h
    exact hc rfl

theorem leafVerdict_ne_error_nil (mode : Mode) (v : Json) (s : Schema) :
    leafVerdict? mode v s ≠ some (.error []) := by
  intro h
  cases s with
  | any | array | object | union | optional | conditional => cases h
  | null =>
    simp only [leafVerdict?, checkNull, Option.some.injEq] at h
    split at h <;> cases h
  | literal expected =>
    simp only [leafVerdict?, checkLiteral, Option.some.injEq] at h
    split at h <;> cases h
  | string lo hi pattern =>
    simp only [leafVerdict?, checkString, Option.some.injEq] at h
    split at h
    · exact unless_ne_error_nil _ _ h
    · cases h
  | integer lo hi =>
    simp only [leafVerdict?, checkInteger, Option.some.injEq] at h
    split at h
    · exact unless_ne_error_nil _ _ h
    · cases h
  | number lo hi =>
    simp only [leafVerdict?, checkNumber, Option.some.injEq] at h
    split at h
    · exact unless_ne_error_nil _ _ h
    · cases h
  | boolean =>
    simp only [leafVerdict?, checkBoolean, Option.some.injEq] at h
    split at h <;> cases h

theorem report_eq_none_nil_iff {verdict : Verdict} :
    verdict.report [] [] = (none, []) ↔ verdict = .error [] := by
  cases verdict <;> simp [Verdict.report]

theorem itemDetails_eq_nil_iff {o : Json → Checked Json} {i : Nat} {vs : List Json} :
    itemDetails o i vs = [] ↔ ∀ v ∈ vs, (o v).2 = [] := by
  induction vs generalizing i with
  | nil => simp [itemDetails]
  | cons v vs ih =>
    have hrest : itemDetails o (i + 1) vs = [] ↔ ∀ v ∈ vs, (o v).2 = [] := ih
    simp only [itemDetails] at hrest
    simp only [itemDetails, List.zipIdx_cons, List.flatMap_cons, List.append_eq_nil_iff,
      List.map_eq_nil_iff, hrest, List.mem_cons, forall_eq_or_imp]

theorem itemOutputs_cons_eq_some {o : Json → Checked Json} {v : Json} {vs ws : List Json}
    (h : itemOutputs o (v :: vs) = some ws) :
    ∃ w rest, (o v).1 = some w ∧ itemOutputs o vs = some rest ∧ ws = w :: rest := by
  rw [itemOutputs, List.mapM_cons] at h
  obtain ⟨w, hw, h⟩ := Option.bind_eq_some_iff.mp h
  obtain ⟨rest, hrest, h⟩ := Option.bind_eq_some_iff.mp h
  exact ⟨w, rest, hw, hrest, (Option.some.inj h).symm⟩

theorem item_of_output {o : Json → Checked Json} {vs ws : List Json} {w : Json}
    (h : itemOutputs o vs = some ws) (hw : w ∈ ws) : ∃ v ∈ vs, (o v).1 = some w := by
  induction vs generalizing ws with
  | nil =>
    cases h
    exact absurd hw List.not_mem_nil
  | cons v vs ih =>
    obtain ⟨x, rest, hx, hrest, rfl⟩ := itemOutputs_cons_eq_some h
    rcases List.mem_cons.mp hw with rfl | hw
    · exact ⟨v, List.mem_cons_self, hx⟩
    · obtain ⟨u, hu, ho⟩ := ih hrest hw
      exact ⟨u, List.mem_cons_of_mem _ hu, ho⟩

theorem output_of_item {o : Json → Checked Json} {vs ws : List Json} {v : Json}
    (h : itemOutputs o vs = some ws) (hv : v ∈ vs) : ∃ w, (o v).1 = some w := by
  induction vs generalizing ws with
  | nil => exact absurd hv List.not_mem_nil
  | cons u vs ih =>
    obtain ⟨x, rest, hx, hrest, rfl⟩ := itemOutputs_cons_eq_some h
    rcases List.mem_cons.mp hv with rfl | hv
    · exact ⟨x, hx⟩
    · exact ih hrest hv

theorem length_itemOutputs {o : Json → Checked Json} {vs ws : List Json}
    (h : itemOutputs o vs = some ws) : ws.length = vs.length := by
  induction vs generalizing ws with
  | nil =>
    cases h
    rfl
  | cons v vs ih =>
    obtain ⟨x, rest, _, hrest, rfl⟩ := itemOutputs_cons_eq_some h
    simpa using ih hrest

theorem arrayOutcome_eq_some {o : Json → Checked Json} {lo hi : Option UInt64} {vs : List Json}
    {w : Json} (h : (arrayOutcome o lo hi vs).1 = some w) :
    lengthComplaints lo hi vs.length = [] ∧ ∃ ws, itemOutputs o vs = some ws ∧ w = .array ws := by
  cases hc : lengthComplaints lo hi vs.length with
  | cons c cs => simp [arrayOutcome, hc] at h
  | nil =>
    cases ho : itemOutputs o vs with
    | none => simp [arrayOutcome, hc, ho] at h
    | some ws =>
      refine ⟨rfl, ws, rfl, ?_⟩
      simpa [arrayOutcome, hc, ho, eq_comm] using h

theorem itemOutputs_eq_none_iff {o : Json → Checked Json} {vs : List Json} :
    itemOutputs o vs = none ↔ ∃ v ∈ vs, (o v).1 = none := by
  induction vs with
  | nil => simp [itemOutputs]
  | cons v vs ih =>
    simp only [itemOutputs] at ih
    simp only [itemOutputs, List.mapM_cons, List.mem_cons, exists_eq_or_imp, ← ih]
    cases (o v).1 <;> cases vs.mapM fun v => (o v).1 <;> simp

theorem choiceDetails_eq_nil_iff {variants : List Schema} {v : Json} {mode : Mode} :
    choiceDetails variants v mode = [] ↔ ∀ s ∈ variants, (s.outcome v mode).2 = [] := by
  simp only [choiceDetails, List.flatMap_eq_nil_iff, List.map_eq_nil_iff]

theorem choiceOutcome_eq_none_nil_iff {variants : List Schema} {v : Json} {mode : Mode} :
    choiceOutcome variants v mode = (none, []) ↔
      ∀ s ∈ variants, s.outcome v mode = (none, []) := by
  rw [choiceOutcome]
  constructor
  · intro h s hs
    cases hf : variants.findSome? fun s => accepted (s.outcome v mode) with
    | some w => simp [hf] at h
    | none =>
      simp only [hf, Prod.mk.injEq, true_and] at h
      have hnone := List.findSome?_eq_none_iff.mp hf s hs
      have hdetails := choiceDetails_eq_nil_iff.mp h s hs
      rcases ho : s.outcome v mode with ⟨_ | w, ds⟩
      · rw [ho] at hdetails
        exact congrArg _ hdetails
      · rw [ho] at hdetails hnone
        cases hdetails
        cases hnone
  · intro h
    have hf : (variants.findSome? fun s => accepted (s.outcome v mode)) = none :=
      List.findSome?_eq_none_iff.mpr fun s hs => by rw [h s hs, accepted_none]
    have hdetails : choiceDetails variants v mode = [] :=
      choiceDetails_eq_nil_iff.mpr fun s hs => by rw [h s hs]
    simp only [hf, hdetails]

theorem details_eq_nil_of_output {s : Schema} {v w : Json} {mode : Mode}
    (h : (s.outcome v mode).1 = some w) : (s.outcome v mode).2 = [] := by
  induction s using partsInduction generalizing v w mode with
  | step s ih =>
  cases hleaf : leafVerdict? mode v s with
  | some verdict =>
    rw [outcome_leaf hleaf] at h ⊢
    cases verdict with
    | ok v => rfl
    | error complaints => cases h
  | none =>
    cases s with
    | any | null | literal | string | integer | number | boolean => cases hleaf
    | optional inner =>
      rw [outcome_optional] at h ⊢
      split at h
      · next hn => rw [if_pos hn]
      · next hn =>
        rw [if_neg hn]
        exact ih inner List.mem_cons_self h
    | array items lo hi =>
      cases v with
      | array vs =>
        rw [outcome_array] at h ⊢
        obtain ⟨hc, ws, ho, _⟩ := arrayOutcome_eq_some h
        have hitems : itemDetails (items.outcome · mode) 0 vs = [] := by
          refine itemDetails_eq_nil_iff.mpr fun u hu => ?_
          obtain ⟨x, hx⟩ := output_of_item ho hu
          exact ih items List.mem_cons_self hx
        simp [arrayOutcome, hc, hitems]
      | _ => cases h
    | object model =>
      cases v with
      | object members =>
        rw [outcome_object, objectOutcome] at h ⊢
        cases hd : objectDetails model members mode with
        | nil => rfl
        | cons d ds => simp [hd] at h
      | _ => cases h
    | union variants =>
      rw [outcome_union, choiceOutcome] at h ⊢
      split at h
      · rfl
      · cases h
    | conditional mapping =>
      rw [outcome_conditional, choiceOutcome] at h ⊢
      split at h
      · rfl
      · cases h

theorem accepts_or_output_none (s : Schema) (v : Json) (mode : Mode) :
    Accepts mode s v ∨ (s.outcome v mode).1 = none := by
  rcases ho : s.outcome v mode with ⟨_ | w, ds⟩
  · exact Or.inr rfl
  · have hds : (s.outcome v mode).2 = [] := details_eq_nil_of_output (by rw [ho])
    rw [ho] at hds
    exact Or.inl ⟨w, by rw [ho, ← hds]⟩

theorem arrayOutcome_eq_none_nil_iff {o : Json → Checked Json} {lo hi : Option UInt64}
    {vs : List Json} :
    arrayOutcome o lo hi vs = (none, []) ↔
      lengthComplaints lo hi vs.length = [] ∧ (∀ v ∈ vs, (o v).2 = []) ∧ ∃ v ∈ vs, (o v).1 = none := by
  rw [← itemDetails_eq_nil_iff (i := 0), ← itemOutputs_eq_none_iff]
  cases hc : lengthComplaints lo hi vs.length <;> simp [arrayOutcome, hc, and_comm]

theorem outcome_eq_none_nil_iff {s : Schema} {v : Json} {mode : Mode} :
    s.outcome v mode = (none, []) ↔ PassedOver mode s v := by
  induction s using partsInduction generalizing v with
  | step s ih =>
  cases hleaf : leafVerdict? mode v s with
  | some verdict =>
    rw [outcome_leaf hleaf, report_eq_none_nil_iff]
    constructor
    · rintro rfl
      exact absurd hleaf (leafVerdict_ne_error_nil mode v s)
    · intro h
      cases h <;> cases hleaf
  | none =>
    cases s with
    | any | null | literal | string | integer | number | boolean => cases hleaf
    | optional inner =>
      rw [outcome_optional, passedOver_optional_iff, ← ih inner List.mem_cons_self]
      cases v.isNull with
      | true => exact iff_of_false (fun h => nomatch h) fun h => nomatch h.1
      | false => exact ⟨fun h => ⟨rfl, h⟩, And.right⟩
    | array items lo hi =>
      cases v with
      | array vs =>
        -- Complaints about the length are details, so only an item can be passed over.
        rw [outcome_array, arrayOutcome_eq_none_nil_iff, passedOver_array_iff]
        refine and_congr_right fun _ => and_congr_right fun hdetails => ?_
        refine exists_congr fun w => and_congr_right fun hw => ?_
        rw [← ih items List.mem_cons_self]
        exact ⟨fun hnone => Prod.ext hnone (hdetails w hw), congrArg Prod.fst⟩
      | _ => exact iff_of_false (fun h => nomatch h) fun h => nomatch h
    | object model =>
      refine iff_of_false (fun h => ?_) fun h => nomatch h
      cases v with
      | object members =>
        rw [outcome_object, objectOutcome] at h
        cases hd : objectDetails model members mode <;> simp [hd] at h
      | _ => cases h
    | union variants =>
      rw [outcome_union, choiceOutcome_eq_none_nil_iff, passedOver_union_iff]
      exact forall₂_congr fun s hs => ih s hs
    | conditional mapping =>
      rw [outcome_conditional, choiceOutcome_eq_none_nil_iff, passedOver_conditional_iff,
        List.forall_mem_map]
      exact forall₂_congr fun e he => ih e.2 (List.mem_map_of_mem he)

/-- Where every choice has a member, no value is passed over. -/
theorem not_passedOver_of_choicesInhabited {s : Schema} {v : Json} {mode : Mode}
    (hs : ChoicesInhabited s) : ¬PassedOver mode s v := by
  intro h
  induction h with
  | @union variants v h ih =>
    cases variants with
    | nil => exact hs.here (Or.inl rfl)
    | cons t rest => exact ih t List.mem_cons_self (hs.of_mem_parts List.mem_cons_self)
  | @conditional mapping v h ih =>
    cases mapping with
    | nil => exact hs.here (Or.inr rfl)
    | cons e rest => exact ih e List.mem_cons_self ((everywhere_conditional.mp hs).2 e List.mem_cons_self)
  | optional _ _ ih => exact ih (hs.of_mem_parts List.mem_cons_self)
  | array _ _ _ _ ih => exact ih (hs.of_mem_parts List.mem_cons_self)

theorem accepts_or_details_of_choicesInhabited {s : Schema} (hs : ChoicesInhabited s) (v : Json)
    (mode : Mode) :
    Accepts mode s v ∨ (s.outcome v mode).1 = none ∧ (s.outcome v mode).2 ≠ [] := by
  refine (accepts_or_output_none s v mode).imp_right fun hnone => ⟨hnone, fun hdetails => ?_⟩
  exact not_passedOver_of_choicesInhabited hs
    (outcome_eq_none_nil_iff.mp (Prod.ext hnone hdetails))

theorem fieldDetails_eq_nil_iff {members : List (String × Json)} {mode : Mode}
    {fields : List (String × Field Schema)} :
    fieldDetails members mode fields = [] ↔
      ∀ e ∈ fields, (fieldOutcome members mode e.1 e.2).2 = [] := by
  simp only [fieldDetails, List.flatMap_eq_nil_iff]

theorem mem_fieldOutputs {members : List (String × Json)} {mode : Mode}
    {fields : List (String × Field Schema)} {name : String} {w : Json} :
    (name, w) ∈ fieldOutputs members mode fields ↔
      ∃ f, (name, f) ∈ fields ∧ (fieldOutcome members mode name f).1 = some w := by
  simp only [fieldOutputs, List.mem_filterMap, Option.map_eq_some_iff, Prod.mk.injEq]
  constructor
  · rintro ⟨⟨k, f⟩, hf, x, hx, rfl, rfl⟩
    exact ⟨f, hf, hx⟩
  · rintro ⟨f, hf, hw⟩
    exact ⟨(name, f), hf, w, hw, rfl, rfl⟩

theorem names_fieldOutputs_sublist (members : List (String × Json)) (mode : Mode)
    (fields : List (String × Field Schema)) :
    ((fieldOutputs members mode fields).map Prod.fst).Sublist (fields.map Prod.fst) :=
  Named.names_filterMap_sublist (fun name f => (fieldOutcome members mode name f).1) fields

theorem lookup_sorted_fieldOutputs {members : List (String × Json)} {mode : Mode}
    {fields : List (String × Field Schema)} (distinct : (fields.map Prod.fst).Nodup) {name : String}
    {w : Json} :
    (Json.sortMembers (fieldOutputs members mode fields)).lookup name = some w ↔
      ∃ f, (name, f) ∈ fields ∧ (fieldOutcome members mode name f).1 = some w := by
  have houtputs := distinct.sublist (names_fieldOutputs_sublist members mode fields)
  rw [Json.lookup_sortMembers, Named.lookup_reverse houtputs, Named.lookup_iff_mem houtputs]
  exact mem_fieldOutputs

theorem objectOutcome_eq_some {model : Model Schema} {members : List (String × Json)} {mode : Mode}
    {w : Json} (h : (objectOutcome model members mode).1 = some w) :
    w = .object (Json.sortMembers (fieldOutputs members (mode.inside model.strict) model.fields)) ∧
      ∀ e ∈ model.fields, (fieldOutcome members (mode.inside model.strict) e.1 e.2).2 = [] := by
  cases hd : objectDetails model members mode with
  | cons d ds => simp [objectOutcome, hd] at h
  | nil =>
    simp only [objectOutcome, hd, List.isEmpty_nil, if_true, Option.some.injEq] at h
    exact ⟨h.symm, fieldDetails_eq_nil_iff.mp (List.append_eq_nil_iff.mp hd).1⟩

/-- An accepted object lacks a field that the input has exactly when the field's value is passed
over. -/
theorem key_not_mem_iff_passedOver {model : Model Schema} {members out : List (String × Json)}
    {mode : Mode} {name : String} {f : Field Schema} {v : Json}
    (h : (objectOutcome model members mode).1 = some (.object out))
    (distinct : (model.fields.map Prod.fst).Nodup) (hf : (name, f) ∈ model.fields)
    (hv : memberFor (f.wireName name) name members = some v) :
    name ∉ out.map Prod.fst ↔ PassedOver (mode.inside model.strict) f.schema v := by
  obtain ⟨hout, hdetails⟩ := objectOutcome_eq_some h
  cases hout
  have hfield : fieldOutcome members (mode.inside model.strict) name f =
      placed [.key (f.wireName name)] [] (f.schema.outcome v (mode.inside model.strict)) := by
    simp only [fieldOutcome, hv]
  have hnil : (f.schema.outcome v (mode.inside model.strict)).2 = [] := by
    simpa [hfield, placed] using hdetails (name, f) hf
  have hkey : name ∈ (Json.sortMembers (fieldOutputs members (mode.inside model.strict)
      model.fields)).map Prod.fst ↔
      ∃ w, (f.schema.outcome v (mode.inside model.strict)).1 = some w := by
    rw [Json.mem_keys_sortMembers, List.mem_map]
    constructor
    · rintro ⟨⟨k, w⟩, hw, rfl⟩
      obtain ⟨g, hg, hw⟩ := mem_fieldOutputs.mp hw
      have heq : g = f := congrArg Prod.snd
        (List.inj_on_of_nodup_map distinct hg hf rfl)
      subst heq
      exact ⟨w, by simpa [hfield, placed] using hw⟩
    · rintro ⟨w, hw⟩
      exact ⟨(name, w), mem_fieldOutputs.mpr ⟨f, hf, by simpa [hfield, placed] using hw⟩, rfl⟩
  rw [hkey, ← outcome_eq_none_nil_iff]
  constructor
  · intro hnone
    refine Prod.ext ?_ hnil
    cases ho : (f.schema.outcome v (mode.inside model.strict)).1 with
    | none => rfl
    | some w => exact absurd ⟨w, ho⟩ hnone
  · rintro ho ⟨w, hw⟩
    rw [ho] at hw
    cases hw

theorem check_reports_iff {s : Schema} {v : Json} {path : List Step} {mode : Mode}
    {errors : List Detail} :
    errors.length < (s.check v path mode errors).2.length ↔ (s.outcome v mode).2 ≠ [] := by
  rw [check_eq_outcome]
  simp only [placed, List.length_append, List.length_map, ← List.length_pos_iff]
  omega

theorem check_output {s : Schema} {v : Json} {path : List Step} {mode : Mode}
    {errors : List Detail} : (s.check v path mode errors).1 = (s.outcome v mode).1 := by
  rw [check_eq_outcome, placed]

theorem output_none_iff_details_iff {s : Schema} {v : Json} {mode : Mode} :
    ((s.outcome v mode).1 = none ↔ (s.outcome v mode).2 ≠ []) ↔ ¬PassedOver mode s v := by
  rw [← outcome_eq_none_nil_iff]
  constructor
  · rintro h ho
    exact h.mp (congrArg Prod.fst ho) (congrArg Prod.snd ho)
  · intro h
    constructor
    · exact fun hnone hnil => h (Prod.ext hnone hnil)
    · intro hdetails
      cases ho : (s.outcome v mode).1 with
      | none => rfl
      | some w => exact absurd (details_eq_nil_of_output ho) hdetails

theorem validate_eq_ok_iff {s : Schema} {v w : Json} {strict : Option Bool} :
    s.validate v strict = .ok w ↔
      s.outcome v ⟨strict, false⟩ = (some w, []) ∨ PassedOver ⟨strict, false⟩ s v ∧ w = .null := by
  rw [validate_eq, ← outcome_eq_none_nil_iff]
  rcases s.outcome v ⟨strict, false⟩ with ⟨_ | x, _ | ⟨d, ds⟩⟩ <;> simp [eq_comm]

/-- A rejection is reported unless the value is passed over: of a walk anywhere in a value, of a
validation, of a choice no member of which accepts the value, and of a field whose value an accepted
object drops. Nothing is passed over where every choice has a member. -/
theorem rejection_reported_iff_not_passedOver (s : Schema) :
    (∀ v path mode errors,
      ((s.check v path mode errors).1 = none ↔
        errors.length < (s.check v path mode errors).2.length) ↔ ¬PassedOver mode s v) ∧
    (∀ v strict w, s.validate v strict = .ok w ↔
      s.check v [] ⟨strict, false⟩ [] = (some w, []) ∨ PassedOver ⟨strict, false⟩ s v ∧ w = .null) ∧
    (∀ variants, s = .union variants → ∀ v path mode errors,
      (∀ t ∈ variants, ¬Accepts mode t v) →
        (errors.length < (s.check v path mode errors).2.length ↔
          ¬∀ t ∈ variants, PassedOver mode t v)) ∧
    (∀ model, s = .object model → (model.fields.map Prod.fst).Nodup →
      ∀ members path mode errors out,
        (s.check (.object members) path mode errors).1 = some (.object out) →
          ∀ name f v, (name, f) ∈ model.fields →
            memberFor (f.wireName name) name members = some v →
              (name ∉ out.map Prod.fst ↔ PassedOver (mode.inside model.strict) f.schema v)) ∧
    (ChoicesInhabited s → ∀ v mode, ¬PassedOver mode s v) := by
  refine ⟨fun v path mode errors => ?_, fun v strict w => validate_eq_ok_iff, ?_, ?_,
    fun hs v mode => not_passedOver_of_choicesInhabited hs⟩
  · rw [check_reports_iff, check_output]
    exact output_none_iff_details_iff
  · rintro variants rfl v path mode errors hnone
    have hrefused : (choiceOutcome variants v mode).1 = none := by
      rw [choiceOutcome]
      cases hf : variants.findSome? fun s => accepted (s.outcome v mode) with
      | none => rfl
      | some w =>
        obtain ⟨t, ht, hw⟩ := List.exists_of_findSome?_eq_some hf
        exact absurd ⟨w, accepted_eq_some.mp hw⟩ (hnone t ht)
    have hsilent : (choiceOutcome variants v mode).2 = [] ↔ ∀ t ∈ variants, PassedOver mode t v := by
      simp only [← outcome_eq_none_nil_iff, ← choiceOutcome_eq_none_nil_iff]
      exact ⟨fun h => Prod.ext hrefused h, congrArg Prod.snd⟩
    rw [check_reports_iff, outcome_union, ne_eq, hsilent]
  · rintro model rfl distinct members path mode errors out h name f v hf hv
    rw [check_output, outcome_object] at h
    exact key_not_mem_iff_passedOver h distinct hf hv

/-- A choice without members rejects silently, so that every value is valid and becomes null; an
object drops a field of that type. -/
theorem empty_choice_rejects_silently :
    ¬(((union []).check (.int 1) [] ⟨none, false⟩ []).1 = none ↔
      0 < ((union []).check (.int 1) [] ⟨none, false⟩ []).2.length) ∧
    (union []).validate (.int 1) none = .ok .null ∧
    (object { name := "Box", fields := [("a", { schema := union [] })] }).validate
      (.object [("a", .int 1)]) none = .ok (.object []) :=
  ⟨fun h => absurd (h.mp rfl) (Nat.lt_irrefl 0), rfl, rfl⟩

end Accord.Schema
