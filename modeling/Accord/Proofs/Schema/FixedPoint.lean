import Accord.Proofs.Schema.Conformance

namespace Accord.Schema

def IsChoice : Schema → Prop
  | union _ | conditional _ => True
  | _ => False

/-- No choice stands in the schema, at any depth. -/
def ChoiceFree (s : Schema) : Prop := Everywhere (¬IsChoice ·) s

/-- Fields that are told apart by their names, and also when one is looked up by its alias. -/
structure FieldsApart (fields : List (String × Field Schema)) : Prop where
  distinct : (fields.map Prod.fst).Nodup
  aliases : ∀ e ∈ fields, ∀ other ∈ fields, e.2.alias? = some other.1 → other.1 = e.1

def OwnFieldsApart : Schema → Prop
  | object model => FieldsApart model.fields
  | _ => True

/-- The fallbacks of the fields of an object pass the strict check of the fields as they are. -/
def OwnFallbacksSettled : Schema → Prop
  | object model =>
    ∀ e ∈ model.fields, ∀ v, e.2.fallback = some v → e.2.schema.validate v (some true) = .ok v
  | _ => True

/-- What makes a schema give values in normal form. -/
structure Settling (s : Schema) : Prop where
  choiceFree : ChoiceFree s
  fields : Everywhere OwnFieldsApart s
  fallbacks : Everywhere OwnFallbacksSettled s

theorem Settling.of_mem_parts {s t : Schema} (h : Settling s) (ht : t ∈ s.parts) : Settling t :=
  ⟨h.choiceFree.of_mem_parts ht, h.fields.of_mem_parts ht, h.fallbacks.of_mem_parts ht⟩

theorem choicesInhabited_of_choiceFree {s : Schema} (h : ChoiceFree s) : ChoicesInhabited s := by
  intro t ht hempty
  apply h t ht
  rcases hempty with rfl | rfl <;> trivial

theorem toInteger_int {strict : Bool} {v : Json} {n : Int} (strict' : Bool)
    (h : toInteger strict v = .ok n) : toInteger strict' (.int n) = .ok n := by
  have hrange : -(signedLimit : Int) ≤ n ∧ n < signedLimit := inSignedRange_of_toInteger h
  simp only [toInteger, Json.int64?, if_pos hrange]

theorem checkNumber_settled {lo hi : Option Double} {strict : Bool} {v w : Json} (strict' : Bool)
    (h : checkNumber lo hi strict v = .ok w) : checkNumber lo hi strict' w = .ok w := by
  unfold checkNumber at h
  split at h
  · next x hx =>
    obtain ⟨hc, rfl⟩ := eq_of_unless_eq_ok h
    cases v with
    | int n =>
      cases hx
      simp only [checkNumber, toNumber, Verdict.unless, hc, List.isEmpty_nil, if_true]
    | _ => simp only [checkNumber, toNumber, Verdict.unless, hc, List.isEmpty_nil, if_true]
  · cases h

theorem leafVerdict_settled {s : Schema} {v w : Json} {mode : Mode} (mode' : Mode)
    (h : leafVerdict? mode v s = some (.ok w)) : leafVerdict? mode' w s = some (.ok w) := by
  cases s with
  | array | object | union | optional | conditional => cases h
  | any => rfl
  | null =>
    simp only [leafVerdict?, checkNull, Option.some.injEq] at h
    split at h <;> cases h
    rfl
  | literal expected =>
    simp only [leafVerdict?, checkLiteral, Option.some.injEq] at h ⊢
    split at h <;> cases h
    next hsame => rw [if_pos hsame]
  | string lo hi pattern =>
    simp only [leafVerdict?, checkString, Option.some.injEq] at h
    split at h
    · obtain ⟨hc, rfl⟩ := eq_of_unless_eq_ok h
      simp only [leafVerdict?, checkString, Verdict.unless, hc, List.isEmpty_nil, if_true]
    · cases h
  | integer lo hi =>
    simp only [leafVerdict?, checkInteger, Option.some.injEq] at h
    split at h
    · next n hn =>
      obtain ⟨hc, rfl⟩ := eq_of_unless_eq_ok h
      have hagain : toInteger mode'.isStrict (.int n) = .ok n := toInteger_int _ hn
      simp only [leafVerdict?, checkInteger, hagain, Verdict.unless, hc, List.isEmpty_nil, if_true]
    · cases h
  | number lo hi => exact congrArg some (checkNumber_settled _ (Option.some.inj h))
  | boolean =>
    simp only [leafVerdict?, checkBoolean, Option.some.injEq] at h
    split at h <;> cases h
    rfl

theorem fieldOutputs_congr {members members' : List (String × Json)} {mode mode' : Mode}
    {fields : List (String × Field Schema)}
    (h : ∀ e ∈ fields,
      (fieldOutcome members mode e.1 e.2).1 = (fieldOutcome members' mode' e.1 e.2).1) :
    fieldOutputs members mode fields = fieldOutputs members' mode' fields := by
  refine List.filterMap_congr fun e he => ?_
  obtain ⟨name, f⟩ := e
  have houtput := h (name, f) he
  dsimp only at houtput ⊢
  rw [houtput]

theorem arrayOutcome_settled {o : Json → Checked Json} {lo hi : Option UInt64} {ws : List Json}
    (hlength : lengthComplaints lo hi ws.length = []) (hitems : ∀ w ∈ ws, o w = (some w, [])) :
    arrayOutcome o lo hi ws = (some (.array ws), []) := by
  have houtputs : ∀ us : List Json, (∀ w ∈ us, o w = (some w, [])) → itemOutputs o us = some us := by
    intro us hus
    induction us with
    | nil => rfl
    | cons w rest ih =>
      have hrest : itemOutputs o rest = some rest := ih fun u hu => hus u (List.mem_cons_of_mem _ hu)
      rw [itemOutputs] at hrest
      rw [itemOutputs, List.mapM_cons, hus w List.mem_cons_self, hrest]
      rfl
  have hdetails : itemDetails o 0 ws = [] :=
    itemDetails_eq_nil_iff.mpr fun w hw => congrArg Prod.snd (hitems w hw)
  simp [arrayOutcome, hlength, houtputs ws hitems, hdetails]

section Members

variable {fields : List (String × Field Schema)} {name : String} {f : Field Schema}

theorem FieldsApart.eq_of_mem (apart : FieldsApart fields) {g : Field Schema}
    (hf : (name, f) ∈ fields) (hg : (name, g) ∈ fields) : g = f := by
  have hlookup : fields.lookup name = some f := (Named.lookup_iff_mem apart.distinct).mpr hf
  have hother : fields.lookup name = some g := (Named.lookup_iff_mem apart.distinct).mpr hg
  exact Option.some.inj (hother.symm.trans hlookup)

theorem lookup_own_output (members : List (String × Json)) (mode : Mode)
    (apart : FieldsApart fields) (hf : (name, f) ∈ fields) :
    (Json.sortMembers (fieldOutputs members mode fields)).lookup name =
      (fieldOutcome members mode name f).1 := by
  refine Option.ext fun w => ?_
  rw [lookup_sorted_fieldOutputs apart.distinct]
  constructor
  · rintro ⟨g, hg, hw⟩
    rwa [apart.eq_of_mem hf hg] at hw
  · intro hw
    exact ⟨f, hf, hw⟩

theorem memberFor_outputs (members : List (String × Json)) (mode : Mode)
    (apart : FieldsApart fields) (hf : (name, f) ∈ fields) :
    memberFor (f.wireName name) name (Json.sortMembers (fieldOutputs members mode fields)) =
      (fieldOutcome members mode name f).1 := by
  have hown := lookup_own_output members mode apart hf
  unfold memberFor
  split
  · next w hw =>
    -- Under the wire name stands the member of a field that has this name: the field itself.
    obtain ⟨g, hg, -⟩ := (lookup_sorted_fieldOutputs apart.distinct).mp hw
    have hwire : f.wireName name = name := by
      cases halias : f.alias? with
      | none => rw [Field.wireName, halias, Option.getD_none]
      | some other =>
        rw [Field.wireName, halias, Option.getD_some] at hg ⊢
        exact apart.aliases _ hf _ hg halias
    rw [← hw, hwire, hown]
  · exact hown

theorem unknownMembers_outputs (members : List (String × Json)) (mode : Mode)
    (model : Model Schema) :
    unknownMembers model (Json.sortMembers (fieldOutputs members mode model.fields)) [] = [] := by
  rw [unknownMembers, List.map_eq_nil_iff, List.filter_eq_nil_iff]
  rintro ⟨key, v⟩ hmember
  obtain ⟨f, hf, -⟩ := mem_fieldOutputs.mp (Json.mem_of_mem_sortMembers hmember)
  have hfound : (findField? key model).isSome = true :=
    List.find?_isSome.mpr ⟨(key, f), hf, by simp⟩
  simp only [Option.isNone_iff_eq_none, ← Option.isSome_iff_ne_none, hfound]

end Members

theorem fieldOutcome_settled {fields : List (String × Field Schema)}
    {members : List (String × Json)} {mode mode' : Mode} {name : String} {f : Field Schema}
    (apart : FieldsApart fields) (hf : (name, f) ∈ fields) (inhabited : ChoicesInhabited f.schema)
    (hschema : ∀ v w mode, (f.schema.outcome v mode).1 = some w →
      f.schema.outcome w mode' = (some w, []))
    (hfallback : ∀ v, f.fallback = some v → f.schema.validate v (some true) = .ok v)
    (hnil : (fieldOutcome members mode name f).2 = []) :
    fieldOutcome (Json.sortMembers (fieldOutputs members mode fields)) mode' name f =
      ((fieldOutcome members mode name f).1, []) := by
  have htaken : ∀ v w mode, (f.schema.outcome v mode).1 = some w →
      placed [.key (f.wireName name)] [] (f.schema.outcome w mode') = (some w, []) := by
    intro v w mode hw
    rw [hschema v w mode hw]
    rfl
  have hmember := memberFor_outputs members mode apart hf
  rw [fieldOutcome, hmember]
  unfold fieldOutcome at hnil ⊢
  cases hv : memberFor (f.wireName name) name members with
  | some v =>
    rw [hv] at hnil
    have hdetails : (f.schema.outcome v mode).2 = [] := by simpa [placed] using hnil
    rcases accepts_or_details_of_choicesInhabited inhabited v mode with ⟨w, hw⟩ | ⟨-, hd⟩
    · have hout : (f.schema.outcome v mode).1 = some w := congrArg Prod.fst hw
      simp only [placed, hout]
      exact htaken v w mode hout
    · exact absurd hdetails hd
  | none =>
    rw [hv] at hnil
    cases hfb : f.fallback with
    | some v =>
      -- The fallback has not been checked before, but it is what a strict check of it gives.
      rcases validate_eq_ok_iff.mp (hfallback v hfb) with ho | ⟨hover, -⟩
      · exact htaken v v _ (congrArg Prod.fst ho)
      · exact absurd hover (not_passedOver_of_choicesInhabited inhabited)
    | none =>
      simp only [hfb] at hnil
      simp only [hnil]

theorem objectOutcome_settled {model : Model Schema} {outs members : List (String × Json)}
    {mode mode' : Mode} (houts : outs = fieldOutputs members (mode.inside model.strict) model.fields)
    (hfields : ∀ e ∈ model.fields,
      fieldOutcome (Json.sortMembers outs) (mode'.inside model.strict) e.1 e.2 =
        ((fieldOutcome members (mode.inside model.strict) e.1 e.2).1, [])) :
    objectOutcome model (Json.sortMembers outs) mode' =
      (some (.object (Json.sortMembers outs)), []) := by
  have houtputs : fieldOutputs (Json.sortMembers outs) (mode'.inside model.strict) model.fields =
      outs := by
    rw [houts] at hfields ⊢
    exact fieldOutputs_congr fun e he => by rw [hfields e he]
  have hdetails := fieldDetails_eq_nil_iff.mpr fun e he => congrArg Prod.snd (hfields e he)
  have hall : objectDetails model (Json.sortMembers outs) mode' = [] := by
    rw [objectDetails, hdetails, houts, unknownMembers_outputs, ite_self, List.append_nil]
  rw [objectOutcome, hall, houtputs]
  rfl

/-- What a check gives is left as it is by every check of the schema. -/
theorem outcome_of_output {s : Schema} {v w : Json} {mode : Mode} (settling : Settling s)
    (mode' : Mode) (h : (s.outcome v mode).1 = some w) : s.outcome w mode' = (some w, []) := by
  induction s using partsInduction generalizing v w mode mode' with
  | step s ih =>
  cases hleaf : leafVerdict? mode v s with
  | some verdict =>
    rw [outcome_leaf hleaf] at h
    cases verdict with
    | error complaints => cases h
    | ok x =>
      cases h
      rw [outcome_leaf (leafVerdict_settled mode' hleaf)]
      rfl
  | none =>
    have hparts : ∀ t ∈ s.parts, ∀ mode' v w mode, (t.outcome v mode).1 = some w →
        t.outcome w mode' = (some w, []) :=
      fun t ht mode' v w mode h => ih t ht (settling.of_mem_parts ht) mode' h
    cases s with
    | any | null | literal | string | integer | number | boolean => cases hleaf
    | optional inner =>
      rw [outcome_optional] at h ⊢
      split at h
      · cases h
        rfl
      · split
        · next hnull =>
          cases w <;> cases hnull
          rfl
        · exact hparts inner List.mem_cons_self mode' v w mode h
    | array items lo hi =>
      cases v with
      | array vs =>
        rw [outcome_array] at h
        obtain ⟨hlength, ws, ho, rfl⟩ := arrayOutcome_eq_some h
        rw [outcome_array]
        refine arrayOutcome_settled (by rwa [length_itemOutputs ho]) fun x hx => ?_
        obtain ⟨u, -, hu⟩ := item_of_output ho hx
        exact hparts items List.mem_cons_self mode' u x mode hu
      | _ => cases h
    | object model =>
      cases v with
      | object members =>
        rw [outcome_object] at h
        obtain ⟨rfl, hnil⟩ := objectOutcome_eq_some h
        rw [outcome_object]
        refine objectOutcome_settled rfl fun e he => ?_
        have hpart : e.2.schema ∈ parts (object model) := List.mem_map.mpr ⟨e, he, rfl⟩
        exact fieldOutcome_settled settling.fields.here he
          (choicesInhabited_of_choiceFree (settling.choiceFree.of_mem_parts hpart))
          (hparts e.2.schema hpart _) (settling.fallbacks.here e he) (hnil e he)
      | _ => cases h
    | union variants => exact absurd trivial settling.choiceFree.here
    | conditional mapping => exact absurd trivial settling.choiceFree.here

theorem validate_validated {s : Schema} {v w : Json} {strict : Option Bool}
    (settling : Settling s) (strict' : Option Bool) (valid : s.validate v strict = .ok w) :
    s.validate w strict' = .ok w := by
  have inhabited := choicesInhabited_of_choiceFree settling.choiceFree
  rcases validate_eq_ok_iff.mp valid with ho | ⟨hover, -⟩
  · exact validate_eq_ok_iff.mpr (Or.inl (outcome_of_output settling _ (congrArg Prod.fst ho)))
  · exact absurd hover (not_passedOver_of_choicesInhabited inhabited)

/-- Validated values are just the values in normal form: those that every validation leaves as they are, strict or
not. -/
theorem validated_iff_normal {s : Schema} (settling : Settling s) (w : Json) :
    (∃ v strict, s.validate v strict = .ok w) ↔ ∀ strict', s.validate w strict' = .ok w :=
  ⟨fun ⟨_, _, valid⟩ strict' => validate_validated settling strict' valid,
    fun normal => ⟨w, none, normal none⟩⟩

def guestForm : Model Schema where
  name := "Guest"
  strict := some true
  fields := [
    ("name", { schema := string (some 1) none none, alias? := some "n" }),
    ("age", { schema := optional (integer (some 0) none), required := false })]

def bookingForm : Schema := object {
  name := "Booking"
  denyUnknown := true
  fields := [
    ("guest", { schema := object guestForm }),
    ("nights", { schema := integer (some 1) (some 30), alias? := some "n" }),
    ("rates", { schema := array (number none none) none (some 3) }),
    ("paid", { schema := boolean, required := false, fallback := some (.bool false) })] }

theorem bookingForm_settling : Settling bookingForm where
  choiceFree := by simp [ChoiceFree, bookingForm, guestForm, IsChoice]
  fields := by
    have hguest : OwnFieldsApart (object guestForm) := ⟨by decide, by simp [guestForm]⟩
    have hbooking : OwnFieldsApart bookingForm := ⟨by decide, by simp⟩
    simpa [bookingForm, guestForm, OwnFieldsApart] using And.intro hbooking hguest
  fallbacks := by
    have hguest : OwnFallbacksSettled (object guestForm) := by simp [OwnFallbacksSettled, guestForm]
    have hbooking : OwnFallbacksSettled bookingForm := by
      intro e he v hv
      simp only [List.mem_cons, List.not_mem_nil, or_false] at he
      obtain rfl | rfl | rfl | rfl := he <;> cases hv
      rfl
    simpa [bookingForm, guestForm, OwnFallbacksSettled] using And.intro hbooking hguest

def bookingSent : Json := .object [
  ("guest", .object [("n", .string "Ada")]), ("n", .string " 3 "), ("paid", .string "Yes"),
  ("rates", .array [.int 80, .int 75])]

def bookingKept : Json := .object [
  ("guest", .object [("name", .string "Ada")]), ("nights", .int 3), ("paid", .bool true),
  ("rates", .array [.int 80, .int 75])]

theorem booking_kept :
    bookingForm.validate bookingSent none = .ok bookingKept ∧
    bookingForm.validate bookingKept (some true) = .ok bookingKept := by
  have hlax : bookingForm.validate bookingSent none = .ok bookingKept := rfl
  exact ⟨hlax, (validated_iff_normal bookingForm_settling bookingKept).mp ⟨_, _, hlax⟩ (some true)⟩

end Accord.Schema
