import Accord.Proofs.Schema.Parts
import Accord.Schema.Check

namespace Accord

@[simp] theorem Detail.under_under (p q : List Step) (d : Detail) :
    (d.under q).under p = d.under (p ++ q) := by
  simp [Detail.under]

@[simp] theorem Detail.under_comp_under (p q : List Step) :
    Detail.under p ∘ Detail.under q = Detail.under (p ++ q) := by
  funext d
  exact Detail.under_under p q d

namespace Schema

@[simp] theorem Complaint.under_atPath (p q : List Step) (c : Complaint) :
    (c.atPath q).under p = c.atPath (p ++ q) := rfl

/-- What a check at the root gives with nothing collected before. -/
def outcome (s : Schema) (v : Json) (mode : Mode) : Checked Json := s.check v [] mode []

/-- An outcome at the root as it shows at a place, behind the details collected before. -/
def placed {α : Type} (path : List Step) (errors : List Detail) (c : Checked α) : Checked α :=
  (c.1, errors ++ c.2.map (Detail.under path))

@[simp] theorem placed_placed_root {α : Type} (path : List Step) (errors : List Detail)
    (c : Checked α) : placed path errors (placed [] [] c) = placed path errors c := by
  simp [placed]

def IsPlaced {α : Type} (check : Json → List Step → List Detail → Checked α)
    (o : Json → Checked α) : Prop :=
  ∀ v path errors, check v path errors = placed path errors (o v)

def accepted : Checked Json → Option Json
  | (some v, []) => some v
  | _ => none

@[simp] theorem accepted_some_nil (v : Json) : accepted (some v, []) = some v := rfl

@[simp] theorem accepted_none (ds : List Detail) : accepted (none, ds) = none := rfl

@[simp] theorem accepted_cons (out : Option Json) (d : Detail) (ds : List Detail) :
    accepted (out, d :: ds) = none := by
  cases out <;> rfl

theorem accepted_eq_some {c : Checked Json} {w : Json} : accepted c = some w ↔ c = (some w, []) := by
  obtain ⟨_ | v, _ | ⟨d, ds⟩⟩ := c <;> simp [accepted]

theorem report_eq_placed (path : List Step) (errors : List Detail) (verdict : Verdict) :
    verdict.report path errors = placed path errors (verdict.report [] []) := by
  cases verdict <;> simp [Verdict.report, placed]

theorem complain_eq_placed (path : List Step) (errors : List Detail) (kind message : String) :
    (complain path errors kind message : Checked Json) =
      placed path errors (complain [] [] kind message) := by
  simp [complain, placed, Detail.under]

def itemDetails (o : Json → Checked Json) (i : Nat) (vs : List Json) : List Detail :=
  (vs.zipIdx i).flatMap fun (v, j) => (o v).2.map (Detail.under [.index j])

def itemOutputs (o : Json → Checked Json) (vs : List Json) : Option (List Json) :=
  vs.mapM fun v => (o v).1

theorem walkItems_eq {check : Json → List Step → List Detail → Checked Json}
    {o : Json → Checked Json} (h : IsPlaced check o) (path : List Step) (i : Nat) (vs : List Json)
    (errors : List Detail) :
    walkItems check path i vs errors = placed path errors (itemOutputs o vs, itemDetails o i vs) := by
  induction vs generalizing i errors with
  | nil => simp [walkItems, placed, itemOutputs, itemDetails]
  | cons v vs ih =>
    have hv := h v (path ++ [.index i]) errors
    simp only [walkItems, hv, ih]
    cases hout : (o v).1 <;> cases houts : itemOutputs o vs <;>
      simp_all [placed, itemOutputs, itemDetails]

def arrayOutcome (o : Json → Checked Json) (minItems maxItems : Option UInt64) (vs : List Json) :
    Checked Json :=
  let complaints := lengthComplaints minItems maxItems vs.length
  (if complaints.isEmpty then (itemOutputs o vs).map .array else none,
    complaints.map (Complaint.atPath []) ++ itemDetails o 0 vs)

def fieldOutcome (members : List (String × Json)) (mode : Mode) (name : String) (f : Field Schema) :
    Checked Json :=
  match memberFor (f.wireName name) name members with
  | some v => placed [.key (f.wireName name)] [] (f.schema.outcome v mode)
  | none =>
    match f.fallback with
    | some v => (some v, [])
    | none =>
      (none, if f.required then
        [⟨"Field required", some [.key (f.wireName name)], "missing"⟩] else [])

def fieldOutputs (members : List (String × Json)) (mode : Mode)
    (fields : List (String × Field Schema)) : List (String × Json) :=
  fields.filterMap fun (name, f) => (fieldOutcome members mode name f).1.map fun v => (name, v)

def fieldDetails (members : List (String × Json)) (mode : Mode)
    (fields : List (String × Field Schema)) : List Detail :=
  fields.flatMap fun (name, f) => (fieldOutcome members mode name f).2

theorem checkFields_eq {fields : List (String × Field Schema)} (members : List (String × Json))
    (path : List Step) (mode : Mode) (out : List (String × Json)) (errors : List Detail)
    (h : ∀ e ∈ fields, IsPlaced (fun v path errors => e.2.schema.check v path mode errors)
      (e.2.schema.outcome · mode)) :
    checkFields fields members path mode out errors =
      ((fieldOutputs members mode fields).foldl (fun out (k, v) => Json.insertMember k v out) out,
        errors ++ (fieldDetails members mode fields).map (Detail.under path)) := by
  induction fields generalizing out errors with
  | nil => simp [checkFields, fieldOutputs, fieldDetails]
  | cons entry rest ih =>
    obtain ⟨name, ⟨s, required, alias?, fallback⟩⟩ := entry
    have hs := h _ List.mem_cons_self
    have hrest := fun out errors => ih out errors fun e he => h e (List.mem_cons_of_mem _ he)
    simp only [checkFields]
    cases hm : memberFor (alias?.getD name) name members with
    | some v =>
      simp only [hs v _ errors, hrest]
      cases hout : (s.outcome v mode).1 <;>
        simp [fieldOutputs, fieldDetails, fieldOutcome, Field.wireName, hm, placed, hout]
    | none =>
      cases fallback with
      | some v => simp [hrest, fieldOutputs, fieldDetails, fieldOutcome, Field.wireName, hm]
      | none =>
        cases required <;>
          simp [hrest, fieldOutputs, fieldDetails, fieldOutcome, Field.wireName, hm, Detail.under]

theorem unknownMembers_eq (model : Model Schema) (members : List (String × Json))
    (path : List Step) :
    unknownMembers model members path =
      (unknownMembers model members []).map (Detail.under path) := by
  simp [unknownMembers, Detail.under]

/-- The details about an object: those of its fields and, where the model refuses other members, one
for each of these. -/
def objectDetails (model : Model Schema) (members : List (String × Json)) (mode : Mode) :
    List Detail :=
  fieldDetails members (mode.inside model.strict) model.fields ++
    if model.denyUnknown then unknownMembers model members [] else []

def objectOutcome (model : Model Schema) (members : List (String × Json)) (mode : Mode) :
    Checked Json :=
  (if (objectDetails model members mode).isEmpty then
      some (.object (Json.sortMembers (fieldOutputs members (mode.inside model.strict) model.fields)))
    else none,
    objectDetails model members mode)

def choiceDetails (variants : List Schema) (v : Json) (mode : Mode) : List Detail :=
  variants.flatMap fun s => (s.outcome v mode).2.map (Detail.under [.key s.typeName])

def choiceOutcome (variants : List Schema) (v : Json) (mode : Mode) : Checked Json :=
  match variants.findSome? fun s => accepted (s.outcome v mode) with
  | some w => (some w, [])
  | none => (none, choiceDetails variants v mode)

theorem checkMembers_eq_checkVariants (mapping : List (String × Schema)) (v : Json) (mode : Mode) :
    checkMembers mapping v mode = checkVariants (mapping.map Prod.snd) v mode := by
  induction mapping with
  | nil => rfl
  | cons entry rest ih => simp only [checkMembers, checkVariants, List.map_cons, ih]

theorem checkVariants_eq (variants : List Schema) (v : Json) (mode : Mode) :
    checkVariants variants v mode =
      match variants.findSome? fun s => accepted (s.outcome v mode) with
      | some w => .ok w
      | none => .error (choiceDetails variants v mode) := by
  induction variants with
  | nil => rfl
  | cons s rest ih =>
    have ho : s.check v [] mode [] = s.outcome v mode := rfl
    simp only [checkVariants, ho, ih]
    rcases hs : s.outcome v mode with ⟨_ | out, _ | ⟨d, ds⟩⟩ <;>
      simp only [hs, List.findSome?_cons, accepted_some_nil, accepted_none, accepted_cons,
        choiceDetails, List.flatMap_cons] <;>
      cases rest.findSome? fun s => accepted (s.outcome v mode) <;> rfl

theorem choice_eq_placed (variants : List Schema) (v : Json) (path : List Step) (mode : Mode)
    (errors : List Detail) :
    (match checkVariants variants v mode with
      | .ok out => (some out, errors)
      | .error details => (none, errors ++ details.map (Detail.under path))) =
      placed path errors (choiceOutcome variants v mode) := by
  rw [checkVariants_eq, choiceOutcome]
  cases variants.findSome? fun s => accepted (s.outcome v mode) <;> simp [placed]

theorem check_array_eq {items : Schema} {mode : Mode} (lo hi : Option UInt64) (vs : List Json)
    (path : List Step) (errors : List Detail)
    (h : IsPlaced (fun v path errors => items.check v path mode errors) (items.outcome · mode)) :
    (array items lo hi).check (.array vs) path mode errors =
      placed path errors (arrayOutcome (items.outcome · mode) lo hi vs) := by
  simp only [check, walkItems_eq h]
  cases hc : (lengthComplaints lo hi vs.length).isEmpty <;>
    simp [placed, arrayOutcome, hc, Function.comp_def]

theorem check_object_eq {model : Model Schema} (members : List (String × Json)) (path : List Step)
    (mode : Mode) (errors : List Detail)
    (h : ∀ e ∈ model.fields, ∀ mode,
      IsPlaced (fun v path errors => e.2.schema.check v path mode errors)
        (e.2.schema.outcome · mode)) :
    (object model).check (.object members) path mode errors =
      placed path errors (objectOutcome model members mode) := by
  obtain ⟨name, fields, forceList, strict, denyUnknown⟩ := model
  simp only [check, checkFields_eq members path (mode.inside strict) [] errors
    fun e he => h e he (mode.inside strict)]
  cases denyUnknown with
  | false => simp [placed, objectOutcome, objectDetails, Json.sortMembers]
  | true =>
    rw [unknownMembers_eq]
    simp [placed, objectOutcome, objectDetails, Json.sortMembers]

theorem check_union_eq (variants : List Schema) (v : Json) (path : List Step) (mode : Mode)
    (errors : List Detail) :
    (union variants).check v path mode errors =
      placed path errors (choiceOutcome variants v mode) := by
  simp only [check]
  exact choice_eq_placed variants v path mode errors

theorem check_conditional_eq (mapping : List (String × Schema)) (v : Json) (path : List Step)
    (mode : Mode) (errors : List Detail) :
    (conditional mapping).check v path mode errors =
      placed path errors (choiceOutcome (mapping.map Prod.snd) v mode) := by
  simp only [check, checkMembers_eq_checkVariants]
  exact choice_eq_placed (mapping.map Prod.snd) v path mode errors

/-- The path and the details collected before play no part in a check but for where they show. -/
theorem check_eq_outcome (s : Schema) (v : Json) (path : List Step) (mode : Mode)
    (errors : List Detail) : s.check v path mode errors = placed path errors (s.outcome v mode) := by
  induction s using partsInduction generalizing v path mode errors with
  | step s ih =>
  cases s with
  | any => simp [outcome, check, placed]
  | null | literal | string | integer | number | boolean => exact report_eq_placed path errors _
  | optional inner =>
    simp only [outcome, check]
    cases v.isNull with
    | true => simp [placed]
    | false => exact ih inner List.mem_cons_self v path mode errors
  | array items lo hi =>
    cases v with
    | array vs =>
      have h : IsPlaced (fun v path errors => items.check v path mode errors)
          (items.outcome · mode) :=
        fun v path errors => ih items List.mem_cons_self v path mode errors
      rw [outcome, check_array_eq lo hi vs path errors h, check_array_eq lo hi vs [] [] h,
        placed_placed_root]
    | _ => exact complain_eq_placed path errors _ _
  | object model =>
    cases v with
    | object members =>
      have h : ∀ e ∈ model.fields, ∀ mode,
          IsPlaced (fun v path errors => e.2.schema.check v path mode errors)
            (e.2.schema.outcome · mode) :=
        fun e he mode v path errors =>
          ih e.2.schema (List.mem_map.mpr ⟨e, he, rfl⟩) v path mode errors
      rw [outcome, check_object_eq members path mode errors h, check_object_eq members [] mode [] h,
        placed_placed_root]
    | _ => exact complain_eq_placed path errors _ _
  | union variants => rw [outcome, check_union_eq, check_union_eq, placed_placed_root]
  | conditional mapping =>
    rw [outcome, check_conditional_eq, check_conditional_eq, placed_placed_root]

theorem check_isPlaced (s : Schema) (mode : Mode) :
    IsPlaced (fun v path errors => s.check v path mode errors) (s.outcome · mode) :=
  fun v path errors => check_eq_outcome s v path mode errors

@[simp] theorem placed_root_outcome (s : Schema) (v : Json) (mode : Mode) :
    placed [] [] (s.outcome v mode) = s.outcome v mode :=
  (check_eq_outcome s v [] mode []).symm

@[simp] theorem map_under_root_outcome (s : Schema) (v : Json) (mode : Mode) :
    (s.outcome v mode).2.map (Detail.under []) = (s.outcome v mode).2 := by
  simpa [placed] using congrArg Prod.snd (placed_root_outcome s v mode)

theorem path_of_mem_outcome {s : Schema} {v : Json} {mode : Mode} {d : Detail}
    (h : d ∈ (s.outcome v mode).2) : ∃ steps, d.path = some steps := by
  rw [← map_under_root_outcome] at h
  obtain ⟨placeless, -, rfl⟩ := List.mem_map.mp h
  exact ⟨_, rfl⟩

/-- It does not matter where a value is checked and what has been found before. The output is that of a
check at the root with nothing found before; what has been found stays in front; and behind it come the
details of the check at the root, each at a place, with the path in front of that place. -/
theorem check_anywhere (s : Schema) (v : Json) (path : List Step) (mode : Mode)
    (errors : List Detail) :
    (s.check v path mode errors).1 = (s.check v [] mode []).1 ∧
      (s.check v path mode errors).2 = errors ++ (s.check v [] mode []).2.map
        (fun d => { d with path := d.path.map (path ++ ·) }) ∧
      ∀ d ∈ (s.check v [] mode []).2, ∃ steps, d.path = some steps := by
  have hplaced := check_eq_outcome s v path mode errors
  have hsteps : ∀ d ∈ (s.outcome v mode).2, d.under path =
      { d with path := d.path.map (path ++ ·) } := by
    intro d hd
    obtain ⟨steps, hpath⟩ := path_of_mem_outcome hd
    simp only [Detail.under, hpath, Option.getD_some, Option.map_some]
  rw [hplaced]
  exact ⟨rfl, congrArg (errors ++ ·) (List.map_congr_left hsteps), fun d hd => path_of_mem_outcome hd⟩

def leafVerdict? (mode : Mode) (v : Json) : Schema → Option Verdict
  | any => some (.ok v)
  | null => some (checkNull v)
  | literal expected => some (checkLiteral expected v)
  | string lo hi pattern => some (checkString lo hi pattern v)
  | integer lo hi => some (checkInteger lo hi mode.isStrict v)
  | number lo hi => some (checkNumber lo hi mode.isStrict v)
  | boolean => some (checkBoolean mode.isStrict v)
  | _ => none

theorem outcome_leaf {s : Schema} {v : Json} {mode : Mode} {verdict : Verdict}
    (h : leafVerdict? mode v s = some verdict) : s.outcome v mode = verdict.report [] [] := by
  cases s <;> cases h <;> rfl

theorem outcome_array (items : Schema) (lo hi : Option UInt64) (vs : List Json) (mode : Mode) :
    (array items lo hi).outcome (.array vs) mode =
      arrayOutcome (items.outcome · mode) lo hi vs := by
  rw [outcome, check_array_eq lo hi vs [] [] (check_isPlaced items mode)]
  simp [placed, arrayOutcome, itemDetails, List.map_flatMap, Function.comp_def]

theorem fieldOutcome_rooted (members : List (String × Json)) (mode : Mode) (name : String)
    (f : Field Schema) :
    (fieldOutcome members mode name f).2.map (Detail.under []) =
      (fieldOutcome members mode name f).2 := by
  simp only [fieldOutcome]
  cases memberFor (f.wireName name) name members with
  | some v => simp [placed]
  | none => cases f.fallback <;> cases f.required <;> simp [Detail.under]

theorem outcome_object (model : Model Schema) (members : List (String × Json)) (mode : Mode) :
    (object model).outcome (.object members) mode = objectOutcome model members mode := by
  rw [outcome, check_object_eq members [] mode [] fun e _ mode => check_isPlaced e.2.schema mode]
  have hfields : (fieldDetails members (mode.inside model.strict) model.fields).map
      (Detail.under []) = fieldDetails members (mode.inside model.strict) model.fields := by
    simp only [fieldDetails, List.map_flatMap, fieldOutcome_rooted]
  have hdetails : (objectDetails model members mode).map (Detail.under []) =
      objectDetails model members mode := by
    cases hd : model.denyUnknown <;>
      simp [objectDetails, hd, hfields, ← unknownMembers_eq model members []]
  simp [placed, objectOutcome, hdetails]

theorem choiceOutcome_rooted (variants : List Schema) (v : Json) (mode : Mode) :
    placed [] [] (choiceOutcome variants v mode) = choiceOutcome variants v mode := by
  rw [choiceOutcome]
  cases variants.findSome? fun s => accepted (s.outcome v mode) <;>
    simp [placed, choiceDetails, List.map_flatMap]

theorem outcome_union (variants : List Schema) (v : Json) (mode : Mode) :
    (union variants).outcome v mode = choiceOutcome variants v mode := by
  rw [outcome, check_union_eq, choiceOutcome_rooted]

theorem outcome_conditional (mapping : List (String × Schema)) (v : Json) (mode : Mode) :
    (conditional mapping).outcome v mode = choiceOutcome (mapping.map Prod.snd) v mode := by
  rw [outcome, check_conditional_eq, choiceOutcome_rooted]

theorem outcome_optional (inner : Schema) (v : Json) (mode : Mode) :
    (optional inner).outcome v mode =
      if v.isNull then (some .null, []) else inner.outcome v mode := rfl

theorem validate_eq (s : Schema) (v : Json) (strict : Option Bool) :
    s.validate v strict =
      match s.outcome v ⟨strict, false⟩ with
      | (out, []) => .ok (out.getD .null)
      | (_, errors) => .error errors := rfl

theorem ne_nil_of_validate_error {s : Schema} {v : Json} {strict : Option Bool}
    {details : List Detail} (h : s.validate v strict = .error details) : details ≠ [] := by
  rw [validate_eq] at h
  split at h
  · cases h
  · next hsome _ =>
    cases h
    rintro rfl
    exact hsome rfl

end Schema

end Accord
