import Accord.Proofs.Schema.FixedPoint

namespace Accord.Schema

/-- The second mode is strict at no place at which the first is not, whatever objects there are on the way. -/
inductive Mode.Eases : Mode → Mode → Prop
  | same (m : Mode) : Eases m m
  | fromStrict {m m' : Mode} : m.forced = some true → Eases m m'
  | toLax {m m' : Mode} : m'.forced = some false → Eases m m'

variable {m m' : Mode} {s : Schema} {v w : Json}

theorem Mode.Eases.inside (eases : m.Eases m') (strict : Option Bool) :
    (m.inside strict).Eases (m'.inside strict) := by
  cases eases with
  | same => exact .same _
  | fromStrict h => exact .fromStrict h
  | toLax h => exact .toLax h

theorem Mode.Eases.isStrict_cases (eases : m.Eases m') :
    m.isStrict = m'.isStrict ∨ m.isStrict = true ∧ m'.isStrict = false := by
  cases eases with
  | same => exact .inl rfl
  | fromStrict h =>
    have hstrict : m.isStrict = true := by rw [Mode.isStrict, h, Option.getD_some]
    rw [hstrict]
    cases m'.isStrict with
    | true => exact .inl rfl
    | false => exact .inr ⟨rfl, rfl⟩
  | toLax h =>
    have hlax : m'.isStrict = false := by rw [Mode.isStrict, h, Option.getD_some]
    rw [hlax]
    cases m.isStrict with
    | true => exact .inr ⟨rfl, rfl⟩
    | false => exact .inl rfl

theorem toInteger_of_strict {n : Int} (strict : Bool) (h : toInteger true v = .ok n) :
    toInteger strict v = .ok n := by
  cases v with
  | int => exact h
  | null | bool | float | string | array | object => cases h

theorem toNumber_of_strict {x : Binary64} (strict : Bool) (h : toNumber true v = .ok x) :
    toNumber strict v = .ok x := by
  cases v with
  | int | float => exact h
  | null | bool | string | array | object => cases h

theorem toBoolean_of_strict {b : Bool} (strict : Bool) (h : toBoolean true v = .ok b) :
    toBoolean strict v = .ok b := by
  cases v with
  | bool => exact h
  | null | int | float | string | array | object => cases h

theorem leafVerdict_congr (hsame : m.isStrict = m'.isStrict) (v : Json) (s : Schema) :
    leafVerdict? m v s = leafVerdict? m' v s := by
  cases s with
  | integer | number | boolean => simp only [leafVerdict?, hsame]
  | _ => rfl

theorem leafVerdict_eased (eases : m.Eases m') (h : leafVerdict? m v s = some (.ok w)) :
    leafVerdict? m' v s = some (.ok w) := by
  rcases eases.isStrict_cases with hsame | ⟨hstrict, -⟩
  · rw [← leafVerdict_congr hsame]
    exact h
  · cases s with
    | integer lo hi =>
      simp only [leafVerdict?, checkInteger, hstrict, Option.some.injEq] at h ⊢
      split at h
      · next n hn => rwa [toInteger_of_strict _ hn]
      · cases h
    | number lo hi =>
      simp only [leafVerdict?, checkNumber, hstrict, Option.some.injEq] at h ⊢
      split at h
      · next x hx => rwa [toNumber_of_strict _ hx]
      · cases h
    | boolean =>
      simp only [leafVerdict?, checkBoolean, hstrict, Option.some.injEq] at h ⊢
      split at h
      · next b hb => rwa [toBoolean_of_strict _ hb]
      · cases h
    | _ => exact h

theorem details_array_eq_nil_iff {items : Schema} {lo hi : Option UInt64} {vs : List Json} :
    ((array items lo hi).outcome (.array vs) m).2 = [] ↔
      lengthComplaints lo hi vs.length = [] ∧ ∀ v ∈ vs, (items.outcome v m).2 = [] := by
  rw [outcome_array, arrayOutcome, List.append_eq_nil_iff, List.map_eq_nil_iff, itemDetails_eq_nil_iff]

theorem accepts_of_output (h : (s.outcome v m).1 = some w) : Accepts m s v :=
  ⟨w, Prod.ext h (details_eq_nil_of_output h)⟩

theorem accepts_array_iff {items : Schema} {lo hi : Option UInt64} {vs : List Json} :
    Accepts m (array items lo hi) (.array vs) ↔
      lengthComplaints lo hi vs.length = [] ∧ ∀ v ∈ vs, Accepts m items v := by
  constructor
  · rintro ⟨w, hw⟩
    rw [outcome_array] at hw
    obtain ⟨hlength, ws, ho, -⟩ := arrayOutcome_eq_some (congrArg Prod.fst hw)
    refine ⟨hlength, fun v hv => ?_⟩
    obtain ⟨x, hx⟩ := output_of_item ho hv
    exact accepts_of_output hx
  · rintro ⟨hlength, hall⟩
    cases ho : itemOutputs (items.outcome · m) vs with
    | none =>
      obtain ⟨v, hv, hnone⟩ := itemOutputs_eq_none_iff.mp ho
      obtain ⟨x, hx⟩ := hall v hv
      rw [hx] at hnone
      cases hnone
    | some ws =>
      refine accepts_of_output (w := .array ws) ?_
      rw [outcome_array]
      simp only [arrayOutcome, hlength, ho, List.isEmpty_nil, if_true, Option.map_some]

theorem accepts_object_iff {model : Model Schema} {members : List (String × Json)} :
    Accepts m (object model) (.object members) ↔
      ((object model).outcome (.object members) m).2 = [] := by
  rw [Accepts, outcome_object]
  constructor
  · rintro ⟨w, hw⟩
    exact congrArg Prod.snd hw
  · intro hnil
    have hnil : objectDetails model members m = [] := hnil
    rw [objectOutcome, hnil]
    exact ⟨_, rfl⟩

theorem details_object_eq_nil_iff {model : Model Schema} {members : List (String × Json)} :
    ((object model).outcome (.object members) m).2 = [] ↔
      (∀ e ∈ model.fields, (fieldOutcome members (m.inside model.strict) e.1 e.2).2 = []) ∧
        (model.denyUnknown = true → unknownMembers model members [] = []) := by
  rw [outcome_object]
  unfold objectOutcome objectDetails
  rw [List.append_eq_nil_iff, fieldDetails_eq_nil_iff]
  refine and_congr_right fun _ => ?_
  cases model.denyUnknown <;> simp

theorem accepts_choice_iff {variants : List Schema} :
    (∃ w, choiceOutcome variants v m = (some w, [])) ↔ ∃ s ∈ variants, Accepts m s v := by
  rw [choiceOutcome]
  constructor
  · rintro ⟨w, hw⟩
    split at hw
    · next x hx =>
      obtain ⟨s, hs, hx⟩ := List.exists_of_findSome?_eq_some hx
      exact ⟨s, hs, x, accepted_eq_some.mp hx⟩
    · cases hw
  · rintro ⟨s, hs, x, hx⟩
    cases hfound : variants.findSome? fun s => accepted (s.outcome v m) with
    | some w => exact ⟨w, rfl⟩
    | none =>
      have hnone := List.findSome?_eq_none_iff.mp hfound s hs
      rw [accepted_eq_some.mpr hx] at hnone
      cases hnone

theorem details_choice_eq_nil_iff {variants : List Schema} :
    (choiceOutcome variants v m).2 = [] ↔
      (∃ s ∈ variants, Accepts m s v) ∨ ∀ s ∈ variants, (s.outcome v m).2 = [] := by
  rw [← accepts_choice_iff, ← choiceDetails_eq_nil_iff, choiceOutcome]
  cases variants.findSome? fun s => accepted (s.outcome v m) <;> simp

/-- A check that has nothing to say, or accepts, still does so when it is eased. -/
structure Passes (m m' : Mode) (s : Schema) (v : Json) : Prop where
  silent : (s.outcome v m).2 = [] → (s.outcome v m').2 = []
  accepts : Accepts m s v → Accepts m' s v

theorem fieldOutcome_silent {members : List (String × Json)} {name : String} {f : Field Schema}
    (hschema : ∀ v, (f.schema.outcome v m).2 = [] → (f.schema.outcome v m').2 = [])
    (hnil : (fieldOutcome members m name f).2 = []) : (fieldOutcome members m' name f).2 = [] := by
  unfold fieldOutcome at hnil ⊢
  split at hnil
  · next v hv =>
    have hsilent : (f.schema.outcome v m).2 = [] := by simpa [placed] using hnil
    simp [placed, hschema v hsilent]
  · exact hnil

theorem passes_choice {variants : List Schema} (hall : ∀ s ∈ variants, Passes m m' s v) :
    ((choiceOutcome variants v m).2 = [] → (choiceOutcome variants v m').2 = []) ∧
      ((∃ w, choiceOutcome variants v m = (some w, [])) →
        ∃ w, choiceOutcome variants v m' = (some w, [])) := by
  rw [details_choice_eq_nil_iff, details_choice_eq_nil_iff, accepts_choice_iff, accepts_choice_iff]
  have haccepts : (∃ s ∈ variants, Accepts m s v) → ∃ s ∈ variants, Accepts m' s v :=
    fun ⟨s, hs, h⟩ => ⟨s, hs, (hall s hs).accepts h⟩
  exact ⟨Or.imp haccepts fun hsilent s hs => (hall s hs).silent (hsilent s hs), haccepts⟩

theorem passes_leaf {verdict : Verdict} (eases : m.Eases m')
    (hleaf : leafVerdict? m v s = some verdict) : Passes m m' s v := by
  cases verdict with
  | ok w =>
    have heased : s.outcome v m' = (some w, []) := outcome_leaf (leafVerdict_eased eases hleaf)
    exact ⟨fun _ => congrArg Prod.snd heased, fun _ => ⟨w, heased⟩⟩
  | error complaints =>
    have ho : s.outcome v m = (none, complaints.map (Complaint.atPath [])) := outcome_leaf hleaf
    refine ⟨fun hnil => ?_, fun ⟨w, hw⟩ => ?_⟩
    · rw [ho, List.map_eq_nil_iff] at hnil
      rw [hnil] at hleaf
      exact absurd hleaf (leafVerdict_ne_error_nil m v s)
    · rw [ho] at hw
      cases hw

theorem passes_optional {inner : Schema} (hinner : Passes m m' inner v) :
    Passes m m' (optional inner) v := by
  constructor
  · rw [outcome_optional, outcome_optional]
    split
    · exact id
    · exact hinner.silent
  · rw [Accepts, Accepts, outcome_optional, outcome_optional]
    split
    · exact id
    · exact hinner.accepts

theorem passes_array {items : Schema} {lo hi : Option UInt64} {vs : List Json}
    (hitems : ∀ v, Passes m m' items v) : Passes m m' (array items lo hi) (.array vs) := by
  constructor
  · rw [details_array_eq_nil_iff, details_array_eq_nil_iff]
    exact And.imp_right fun hall v hv => (hitems v).silent (hall v hv)
  · rw [accepts_array_iff, accepts_array_iff]
    exact And.imp_right fun hall v hv => (hitems v).accepts (hall v hv)

theorem passes_object {model : Model Schema} {members : List (String × Json)}
    (hfields : ∀ e ∈ model.fields, ∀ v,
      Passes (m.inside model.strict) (m'.inside model.strict) e.2.schema v) :
    Passes m m' (object model) (.object members) := by
  have hsilent : ((object model).outcome (.object members) m).2 = [] →
      ((object model).outcome (.object members) m').2 = [] := by
    rw [details_object_eq_nil_iff, details_object_eq_nil_iff]
    refine And.imp_left fun hall e he => ?_
    exact fieldOutcome_silent (fun v => (hfields e he v).silent) (hall e he)
  refine ⟨hsilent, ?_⟩
  rw [accepts_object_iff, accepts_object_iff]
  exact hsilent

/-- Silence and acceptance go together through the induction: a choice that has nothing to say may have
accepted the value, or have passed over it. -/
theorem passes_of_eases (eases : m.Eases m') : Passes m m' s v := by
  induction s using partsInduction generalizing v m m' with
  | step s ih =>
  cases hleaf : leafVerdict? m v s with
  | some verdict => exact passes_leaf eases hleaf
  | none =>
    cases s with
    | any | null | literal | string | integer | number | boolean => cases hleaf
    | optional inner => exact passes_optional (ih inner List.mem_cons_self eases)
    | array items lo hi =>
      cases v with
      | array vs => exact passes_array fun v => ih items List.mem_cons_self eases
      | _ => exact ⟨fun h => (nomatch h), fun ⟨_, h⟩ => (nomatch h)⟩
    | object model =>
      cases v with
      | object members =>
        refine passes_object fun e he v => ?_
        exact ih e.2.schema (List.mem_map.mpr ⟨e, he, rfl⟩) (eases.inside model.strict)
      | _ => exact ⟨fun h => (nomatch h), fun ⟨_, h⟩ => (nomatch h)⟩
    | union variants =>
      have hchoice := passes_choice (v := v) fun s hs => ih s hs eases
      constructor
      · rw [outcome_union, outcome_union]
        exact hchoice.1
      · rw [Accepts, Accepts, outcome_union, outcome_union]
        exact hchoice.2
    | conditional mapping =>
      have hchoice := passes_choice (v := v) fun s hs => ih s hs eases
      constructor
      · rw [outcome_conditional, outcome_conditional]
        exact hchoice.1
      · rw [Accepts, Accepts, outcome_conditional, outcome_conditional]
        exact hchoice.2

theorem itemOutputs_eased {o o' : Json → Checked Json} {vs ws : List Json}
    (hitems : ∀ v w, (o v).1 = some w → (o' v).1 = some w) (ho : itemOutputs o vs = some ws) :
    itemOutputs o' vs = some ws := by
  induction vs generalizing ws with
  | nil => exact ho
  | cons v vs ih =>
    obtain ⟨x, rest, hx, hrest, rfl⟩ := itemOutputs_cons_eq_some ho
    have hlater : itemOutputs o' vs = some rest := ih hrest
    rw [itemOutputs] at hlater
    rw [itemOutputs, List.mapM_cons, hitems v x hx, hlater]
    rfl

theorem fieldOutcome_eased {members : List (String × Json)} {name : String} {f : Field Schema}
    (inhabited : ChoicesInhabited f.schema)
    (hschema : ∀ v w, (f.schema.outcome v m).1 = some w → f.schema.outcome v m' = (some w, []))
    (hnil : (fieldOutcome members m name f).2 = []) :
    fieldOutcome members m' name f = fieldOutcome members m name f := by
  unfold fieldOutcome at hnil ⊢
  split at hnil
  · next v hv =>
    have hdetails : (f.schema.outcome v m).2 = [] := by simpa [placed] using hnil
    rcases accepts_or_details_of_choicesInhabited inhabited v m with ⟨w, hw⟩ | ⟨-, hd⟩
    · rw [hw, hschema v w (congrArg Prod.fst hw)]
    · exact absurd hdetails hd
  · rfl

theorem outcome_eased (choiceFree : ChoiceFree s) (eases : m.Eases m')
    (h : (s.outcome v m).1 = some w) : s.outcome v m' = (some w, []) := by
  induction s using partsInduction generalizing v w m m' with
  | step s ih =>
  cases hleaf : leafVerdict? m v s with
  | some verdict =>
    rw [outcome_leaf hleaf] at h
    cases verdict with
    | error complaints => cases h
    | ok x =>
      cases h
      exact outcome_leaf (leafVerdict_eased eases hleaf)
  | none =>
    cases s with
    | any | null | literal | string | integer | number | boolean => cases hleaf
    | optional inner =>
      rw [outcome_optional] at h ⊢
      split at h
      · next hnull =>
        cases h
        rw [if_pos hnull]
      · next hnull =>
        rw [if_neg hnull]
        exact ih inner List.mem_cons_self (choiceFree.of_mem_parts List.mem_cons_self) eases h
    | array items lo hi =>
      cases v with
      | array vs =>
        have hitems : ∀ v w, (items.outcome v m).1 = some w → items.outcome v m' = (some w, []) :=
          fun v w => ih items List.mem_cons_self (choiceFree.of_mem_parts List.mem_cons_self) eases
        rw [outcome_array] at h
        obtain ⟨hlength, ws, ho, rfl⟩ := arrayOutcome_eq_some h
        have houts : itemOutputs (items.outcome · m') vs = some ws :=
          itemOutputs_eased (fun v w hw => congrArg Prod.fst (hitems v w hw)) ho
        have hout : ((array items lo hi).outcome (.array vs) m').1 = some (.array ws) := by
          rw [outcome_array]
          simp only [arrayOutcome, hlength, houts, List.isEmpty_nil, if_true, Option.map_some]
        exact Prod.ext hout (details_eq_nil_of_output hout)
      | _ => cases h
    | object model =>
      cases v with
      | object members =>
        have hdetails := details_eq_nil_of_output h
        have heased := (passes_of_eases eases).silent hdetails
        rw [outcome_object] at h heased ⊢
        obtain ⟨rfl, hnil⟩ := objectOutcome_eq_some h
        have hfields : fieldOutputs members (m'.inside model.strict) model.fields =
            fieldOutputs members (m.inside model.strict) model.fields := by
          refine fieldOutputs_congr fun e he => congrArg Prod.fst ?_
          have hpart : e.2.schema ∈ parts (object model) := List.mem_map.mpr ⟨e, he, rfl⟩
          have hfree := choiceFree.of_mem_parts hpart
          exact fieldOutcome_eased (choicesInhabited_of_choiceFree hfree)
            (fun v w => ih e.2.schema hpart hfree (eases.inside model.strict)) (hnil e he)
        have heased : objectDetails model members m' = [] := heased
        rw [objectOutcome, heased, hfields]
        rfl
      | _ => cases h
    | union variants => exact absurd trivial choiceFree.here
    | conditional mapping => exact absurd trivial choiceFree.here

theorem exists_validate_iff {strict : Option Bool} :
    (∃ w, s.validate v strict = .ok w) ↔ (s.outcome v ⟨strict, false⟩).2 = [] := by
  rw [validate_eq]
  rcases s.outcome v ⟨strict, false⟩ with ⟨out, _ | ⟨d, ds⟩⟩ <;> simp

theorem validate_eased {strict strict' : Option Bool} (choiceFree : ChoiceFree s)
    (eases : Mode.Eases ⟨strict, false⟩ ⟨strict', false⟩) (valid : s.validate v strict = .ok w) :
    s.validate v strict' = .ok w := by
  rcases validate_eq_ok_iff.mp valid with ho | ⟨hover, -⟩
  · exact validate_eq_ok_iff.mpr (.inl (outcome_eased choiceFree eases (congrArg Prod.fst ho)))
  · exact absurd hover (not_passedOver_of_choicesInhabited (choicesInhabited_of_choiceFree choiceFree))

/-- What is valid in a strict check is valid in one that leaves the strictness to the objects, and what is valid
in that one is valid in a lax check. Where there are no choices the three give the same value. -/
theorem valid_when_eased (s : Schema) (v : Json) :
    ((∃ w, s.validate v (some true) = .ok w) → ∃ w, s.validate v none = .ok w) ∧
    ((∃ w, s.validate v none = .ok w) → ∃ w, s.validate v (some false) = .ok w) ∧
    (ChoiceFree s → ∀ w,
      (s.validate v (some true) = .ok w → s.validate v none = .ok w) ∧
      (s.validate v none = .ok w → s.validate v (some false) = .ok w)) := by
  have hstrict : Mode.Eases ⟨some true, false⟩ ⟨none, false⟩ := .fromStrict rfl
  have hlax : Mode.Eases ⟨none, false⟩ ⟨some false, false⟩ := .toLax rfl
  refine ⟨?_, ?_, fun choiceFree w => ⟨?_, ?_⟩⟩
  · rw [exists_validate_iff, exists_validate_iff]
    exact (passes_of_eases hstrict).silent
  · rw [exists_validate_iff, exists_validate_iff]
    exact (passes_of_eases hlax).silent
  · exact validate_eased choiceFree hstrict
  · exact validate_eased choiceFree hlax

example : (union [integer none none, string none none none]).validate (.string "1") (some true) =
      .ok (.string "1") ∧
    (union [integer none none, string none none none]).validate (.string "1") none = .ok (.int 1) :=
  ⟨rfl, rfl⟩

end Accord.Schema
