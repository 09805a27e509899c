import Accord.Proofs.Schema.Sameness
import Accord.Proofs.Schema.Silence
import Mathlib.Algebra.GroupWithZero.Nat

namespace Accord.Schema

def tally (c : Checked Json) : Bool × Nat := (c.1.isSome, c.2.length)

theorem tally_eq_iff {c d : Checked Json} :
    tally c = tally d ↔ c.1.isSome = d.1.isSome ∧ c.2.length = d.2.length := by
  rw [tally, tally, Prod.mk.injEq]

theorem tally_placed (path : List Step) (c : Checked Json) : tally (placed path [] c) = tally c := by
  simp [tally, placed]

theorem isSome_accepted (c : Checked Json) : (accepted c).isSome = (tally c == (true, 0)) := by
  obtain ⟨_ | v, _ | ⟨d, ds⟩⟩ := c <;> rfl

theorem below_congr_of_sameValue {y z : Double} (h : y.sameValue z = true) (x : Double) :
    x.below y = x.below z ∧ y.below x = z.below x := by
  obtain ⟨hright, hleft⟩ := Double.compare?_congr (Double.sameValue_iff.mp h).1 x
  rw [Double.below, Double.below, Double.below, Double.below, hright, hleft]
  exact ⟨rfl, rfl⟩

theorem length_numberComplaints {lo hi lo' hi' : Option Double} (least : sameBound lo lo' = true)
    (most : sameBound hi hi' = true) (x : Binary64) :
    (numberComplaints lo hi x).length = (numberComplaints lo' hi' x).length := by
  have hif : ∀ {a b : Bool} (c d : Complaint), a = b →
      (if a then [c] else []).length = (if b then [d] else []).length := by
    rintro a _ c d rfl
    cases a <;> rfl
  simp only [numberComplaints, List.length_append]
  congr 1
  · cases lo <;> cases lo'
    · rfl
    · cases least
    · cases least
    · exact hif _ _ (below_congr_of_sameValue least x).1
  · cases hi <;> cases hi'
    · rfl
    · cases most
    · cases most
    · exact hif _ _ (below_congr_of_sameValue most x).2

theorem tally_leaf {s t : Schema} (h : Same s t) {v : Json} {mode : Mode} {verdict : Verdict}
    (hleaf : leafVerdict? mode v s = some verdict) :
    tally (s.outcome v mode) = tally (t.outcome v mode) := by
  have hreport : ∀ {cs ds : List Complaint} {w : Json}, cs.length = ds.length →
      tally ((Verdict.unless cs w).report [] []) = tally ((Verdict.unless ds w).report [] []) := by
    intro cs ds w hlength
    cases cs <;> cases ds
    · rfl
    · cases hlength
    · cases hlength
    · simpa [tally, Verdict.unless, Verdict.report] using hlength
  rw [same_iff] at h
  cases h with
  | array | object | union | optional | conditional => cases hleaf
  | string | integer | boolean | null | any => rfl
  | @literal expected expected' hvalue =>
    have hsame : v.same expected = v.same expected' := by
      rw [Bool.eq_iff_iff, Json.same_iff, Json.same_iff, hvalue]
    change tally ((checkLiteral expected v).report [] []) =
      tally ((checkLiteral expected' v).report [] [])
    rw [checkLiteral, checkLiteral, hsame]
    split <;> rfl
  | @number lo hi lo' hi' least most =>
    change tally ((checkNumber lo hi mode.isStrict v).report [] []) =
      tally ((checkNumber lo' hi' mode.isStrict v).report [] [])
    rw [checkNumber, checkNumber]
    split
    · exact hreport (length_numberComplaints least most _)
    · rfl

section Items

variable {o o' : Json → Checked Json}

theorem isSome_itemOutputs (h : ∀ v, tally (o v) = tally (o' v)) (vs : List Json) :
    (itemOutputs o vs).isSome = (itemOutputs o' vs).isSome := by
  have hnone : ∀ v, (o v).1 = none ↔ (o' v).1 = none := fun v =>
    Option.isSome_eq_isSome.mp (tally_eq_iff.mp (h v)).1
  rw [Option.isSome_eq_isSome, itemOutputs_eq_none_iff, itemOutputs_eq_none_iff]
  simp only [hnone]

theorem length_itemDetails (h : ∀ v, tally (o v) = tally (o' v)) (i : Nat) (vs : List Json) :
    (itemDetails o i vs).length = (itemDetails o' i vs).length := by
  have hlength : ∀ v, (o v).2.length = (o' v).2.length := fun v => (tally_eq_iff.mp (h v)).2
  simp only [itemDetails, List.length_flatMap, List.length_map, hlength]

theorem tally_arrayOutcome (h : ∀ v, tally (o v) = tally (o' v)) (lo hi : Option UInt64)
    (vs : List Json) : tally (arrayOutcome o lo hi vs) = tally (arrayOutcome o' lo hi vs) := by
  refine tally_eq_iff.mpr ⟨?_, ?_⟩
  · simp only [arrayOutcome]
    split
    · rw [Option.isSome_map, Option.isSome_map, isSome_itemOutputs h]
    · rfl
  · simp only [arrayOutcome, List.length_append, length_itemDetails h]

end Items

theorem tally_choiceOutcome (variants : List Schema) (v : Json) (mode : Mode) :
    tally (choiceOutcome variants v mode) =
      let tallies := variants.map fun s => tally (s.outcome v mode)
      if tallies.any (· == (true, 0)) then (true, 0) else (false, (tallies.map Prod.snd).sum) := by
  have hfound : (variants.findSome? fun s => accepted (s.outcome v mode)).isSome =
      (variants.map fun s => tally (s.outcome v mode)).any (· == (true, 0)) := by
    rw [Bool.eq_iff_iff, List.findSome?_isSome_iff, List.any_map, List.any_eq_true]
    simp only [isSome_accepted, Function.comp_apply]
  dsimp only
  rw [← hfound, choiceOutcome]
  cases variants.findSome? fun s => accepted (s.outcome v mode) with
  | some w => rfl
  | none =>
    simp only [Option.isSome_none, Bool.false_eq_true, if_false, tally, choiceDetails,
      List.length_flatMap, List.length_map, List.map_map]
    rfl

theorem tally_choice_of_perm {variants variants' : List Schema} {v : Json} {mode : Mode}
    (h : (variants.map fun s => tally (s.outcome v mode)).Perm
      (variants'.map fun s => tally (s.outcome v mode))) :
    tally (choiceOutcome variants v mode) = tally (choiceOutcome variants' v mode) := by
  rw [tally_choiceOutcome, tally_choiceOutcome]
  dsimp only
  rw [h.any_eq, (h.map Prod.snd).sum_nat]

theorem unknownMembers_of_perm {model model' : Model Schema}
    (h : (model.fields.map fun e => (e.1, e.2.alias?)).Perm
      (model'.fields.map fun e => (e.1, e.2.alias?)))
    (members : List (String × Json)) (path : List Step) :
    unknownMembers model members path = unknownMembers model' members path := by
  have hfind : ∀ (key : String) (model : Model Schema), (findField? key model).isNone =
      (model.fields.map fun e => (e.1, e.2.alias?)).all
        fun e => !(e.2.getD e.1 == key || e.1 == key) := by
    intro key model
    rw [Bool.eq_iff_iff, Option.isNone_iff_eq_none, findField?, List.find?_eq_none, List.all_map,
      List.all_eq_true]
    simp only [Function.comp_apply, Bool.not_eq_true', Bool.not_eq_true]
    rfl
  simp only [unknownMembers, hfind, h.all_eq]

theorem tally_fieldOutcome {members : List (String × Json)} {mode : Mode} {name : String}
    {f g : Field Schema} {R : Schema → Schema → Prop} (halike : FieldsAlike R f g)
    (h : ∀ v, tally (f.schema.outcome v mode) = tally (g.schema.outcome v mode)) :
    tally (fieldOutcome members mode name f) = tally (fieldOutcome members mode name g) := by
  have hwire : g.wireName name = f.wireName name := by
    rw [Field.wireName, Field.wireName, halike.alias?]
  have hfallback := halike.fallback
  simp only [fieldOutcome, hwire, ← halike.required]
  cases memberFor (f.wireName name) name members with
  | some v => simp only [tally_placed, h]
  | none =>
    cases hf : f.fallback <;> cases hg : g.fallback
    · rfl
    · simp [hf, hg] at hfallback
    · simp [hf, hg] at hfallback
    · rfl

theorem tally_objectOutcome (model : Model Schema) (members : List (String × Json)) (mode : Mode) :
    tally (objectOutcome model members mode) =
      let tallies := model.fields.map fun e =>
        tally (fieldOutcome members (mode.inside model.strict) e.1 e.2)
      let unknown := if model.denyUnknown then unknownMembers model members [] else []
      let count := (tallies.map Prod.snd).sum + unknown.length
      (count == 0, count) := by
  have hlength : (objectDetails model members mode).length =
      ((model.fields.map fun e =>
        tally (fieldOutcome members (mode.inside model.strict) e.1 e.2)).map Prod.snd).sum +
      (if model.denyUnknown then unknownMembers model members [] else []).length := by
    rw [objectDetails, fieldDetails, List.length_append, List.length_flatMap, List.map_map]
    rfl
  dsimp only
  rw [← hlength, objectOutcome, tally]
  cases objectDetails model members mode <;> rfl

/-- Schemas that are the same give outputs for the same values, and equally many details. -/
theorem tally_outcome_of_same {s t : Schema} (apart : NamesApart s) (h : Same s t) (v : Json)
    (mode : Mode) : tally (s.outcome v mode) = tally (t.outcome v mode) := by
  induction s using partsInduction generalizing t v mode with
  | step s ih =>
  cases hleaf : leafVerdict? mode v s with
  | some verdict => exact tally_leaf h hleaf
  | none =>
    have hparts : ∀ u ∈ s.parts, ∀ t, Same u t → ∀ v mode,
        tally (u.outcome v mode) = tally (t.outcome v mode) :=
      fun u hu t h v mode => ih u hu (apart.of_mem_parts hu) h v mode
    have hown := apart.here
    rw [same_iff] at h
    cases h with
    | string | integer | number | boolean | null | any | literal => cases hleaf
    | optional hinner =>
      rw [outcome_optional, outcome_optional]
      split
      · rfl
      · exact hparts _ List.mem_cons_self _ hinner v mode
    | array hitems =>
      cases v with
      | array vs =>
        rw [outcome_array, outcome_array]
        exact tally_arrayOutcome (fun v => hparts _ List.mem_cons_self _ hitems v mode) _ _ vs
      | _ => rfl
    | @object name fields fields' forceList strict denyUnknown hfields =>
      cases v with
      | object members =>
        -- The fields may come in another order, so their tallies agree up to their order only.
        have hunknown : unknownMembers ⟨name, fields, forceList, strict, denyUnknown⟩ members [] =
            unknownMembers ⟨name, fields', forceList, strict, denyUnknown⟩ members [] :=
          unknownMembers_of_perm (hfields.map_perm hown fun e _ f h => by rw [h.alias?]) members []
        have htallies := hfields.map_perm hown
          (f := fun e => tally (fieldOutcome members (mode.inside strict) e.1 e.2))
          (g := fun e => tally (fieldOutcome members (mode.inside strict) e.1 e.2))
          fun e he f h => tally_fieldOutcome h fun v =>
            hparts _ (List.mem_map.mpr ⟨e, he, rfl⟩) _ h.schema v _
        rw [outcome_object, outcome_object, tally_objectOutcome, tally_objectOutcome]
        dsimp only
        rw [(htallies.map Prod.snd).sum_nat, hunknown]
      | _ => rfl
    | union hvariants =>
      rw [outcome_union, outcome_union]
      refine tally_choice_of_perm (.of_eq (Eq.symm ?_))
      rw [← List.forall₂_eq_eq_eq, List.forall₂_map_left_iff, List.forall₂_map_right_iff]
      exact forall₂_symm hvariants fun s hs t _ h => (hparts s hs t h v mode).symm
    | conditional hmembers =>
      rw [outcome_conditional, outcome_conditional]
      refine tally_choice_of_perm ?_
      rw [List.map_map, List.map_map]
      exact hmembers.map_perm hown fun e he t h => hparts _ (List.mem_map_of_mem he) _ h v mode

/-- Two answers that agree: two values that are related, or two refusals that are. -/
inductive AnswersAlike (R : Json → Json → Prop) (Q : List Detail → List Detail → Prop) :
    Except (List Detail) Json → Except (List Detail) Json → Prop
  | valid {v w : Json} : R v w → AnswersAlike R Q (.ok v) (.ok w)
  | invalid {ds es : List Detail} : Q ds es → AnswersAlike R Q (.error ds) (.error es)

abbrev CountedAlike : Except (List Detail) Json → Except (List Detail) Json → Prop :=
  AnswersAlike (fun _ _ => True) fun ds es => ds.length = es.length

theorem validate_alike {R : Json → Json → Prop} {Q : List Detail → List Detail → Prop}
    {s t : Schema} {v : Json} {strict : Option Bool}
    (value : R ((s.outcome v ⟨strict, false⟩).1.getD .null)
      ((t.outcome v ⟨strict, false⟩).1.getD .null))
    (details : Q (s.outcome v ⟨strict, false⟩).2 (t.outcome v ⟨strict, false⟩).2)
    (count : (s.outcome v ⟨strict, false⟩).2.length = (t.outcome v ⟨strict, false⟩).2.length) :
    AnswersAlike R Q (s.validate v strict) (t.validate v strict) := by
  rw [validate_eq, validate_eq]
  generalize s.outcome v ⟨strict, false⟩ = c at value details count
  generalize t.outcome v ⟨strict, false⟩ = d at value details count
  rcases c with ⟨out, _ | ⟨_, _⟩⟩ <;> rcases d with ⟨out', _ | ⟨_, _⟩⟩
  · exact .valid value
  · cases count
  · cases count
  · exact .invalid details

theorem validate_countedAlike {s t : Schema} {v : Json} {strict : Option Bool}
    (h : tally (s.outcome v ⟨strict, false⟩) = tally (t.outcome v ⟨strict, false⟩)) :
    CountedAlike (s.validate v strict) (t.validate v strict) := by
  have count := (tally_eq_iff.mp h).2
  exact validate_alike trivial count count

/-- Schemas that are the same are valid for the same values, however strict the check is, and refuse the
others with equally many details. -/
theorem same_validated_alike {s t : Schema} (apart : NamesApart s) (h : s.same t = true) (v : Json)
    (strict : Option Bool) : CountedAlike (s.validate v strict) (t.validate v strict) :=
  validate_countedAlike (tally_outcome_of_same apart h v ⟨strict, false⟩)

def parcel : Schema := object {
  name := "Parcel"
  fields := [
    ("weight", { schema := number (some (.finite .zero)) none }),
    ("label", { schema := conditional [
      ("text/plain", string (some 2) none none),
      ("application/json", integer none none)] })] }

def parcelTurned : Schema := object {
  name := "Parcel"
  fields := [
    ("label", { schema := conditional [
      ("application/json", integer none none),
      ("text/plain", string (some 2) none none)] }),
    ("weight", { schema := number (some (.finite ⟨true, 0⟩)) none })] }

def unweighed (label : String) : Json := .object [("label", .string label)]

theorem parcel_refused_alike : NamesApart parcel ∧ parcel.same parcelTurned = true ∧
    ∃ ds es, parcel.validate (unweighed "x") none = .error ds ∧
      parcelTurned.validate (unweighed "x") none = .error es ∧ ds.length = 3 ∧ ds ≠ es ∧
      ds.length = es.length := by
  have apart : NamesApart parcel := by simp [NamesApart, parcel, OwnNamesApart]
  have hsame : parcel.same parcelTurned = true := by decide +kernel
  have halike := same_validated_alike apart hsame (unweighed "x") none
  refine ⟨apart, hsame, _, _, rfl, rfl, rfl, by decide +kernel, ?_⟩
  cases halike with
  | invalid hcount => exact hcount

end Accord.Schema
