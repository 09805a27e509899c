import Accord.Proofs.Schema.Interchange
import Accord.Proofs.Schema.Rereading

namespace Accord

theorem Named.alike_arranged_iff {α β : Type} {R : α → β → Prop} {entries : List (String × α)}
    (distinct : (entries.map Prod.fst).Nodup) {f : α → β} :
    Alike R entries (arranged (entries.map fun e => (e.1, f e.2))) ↔
      ∀ e ∈ entries, R e.2 (f e.2) := by
  have hdistinct : ((entries.map fun e => (e.1, f e.2)).map Prod.fst).Nodup := by
    rw [List.map_map]
    exact distinct
  have hlookup : ∀ e ∈ entries,
      (arranged (entries.map fun e => (e.1, f e.2))).lookup e.1 = some (f e.2) := by
    intro e he
    rw [lookup_arranged hdistinct]
    exact (lookup_iff_mem hdistinct).mpr (List.mem_map.mpr ⟨e, he, rfl⟩)
  refine ⟨fun h e he => ?_, fun h => ⟨?_, fun e he => ⟨f e.2, hlookup e he, h e he⟩⟩⟩
  · obtain ⟨y, hy, hrelated⟩ := h.related e he
    rwa [Option.some.inj ((hlookup e he).symm.trans hy)]
  · rw [(arranged_perm _).length_eq, List.length_map]

namespace Schema

def OwnFallbacksNotNull : Schema → Prop
  | object model => ∀ e ∈ model.fields, e.2.fallback ≠ some .null
  | _ => True

/-- No field in the schema, at any depth, has null for its fallback. -/
def FallbacksNotNull (s : Schema) : Prop := Everywhere OwnFallbacksNotNull s

theorem sameFallback_filter {fallback : Option Json} :
    fallback.map Json.unsignZeros = (fallback.filter fun v => !v.isNull).map Json.unsignZeros ↔
      fallback ≠ some .null := by
  cases fallback with
  | none => simp
  | some v => cases v <;> simp [Option.filter, Json.isNull]

theorem fieldsAlike_reread {f : Field Schema} :
    FieldsAlike Same f (rereadField f.schema.reread f) ↔
      Same f.schema f.schema.reread ∧ f.fallback ≠ some .null := by
  refine ⟨fun h => ⟨h.schema, sameFallback_filter.mp h.fallback⟩, fun ⟨hs, hf⟩ => ?_⟩
  exact ⟨hs, rfl, rfl, sameFallback_filter.mpr hf⟩

theorem same_reread_iff {s : Schema} (formed : Formed s) (ordered : BoundsOrdered s) :
    Same s s.reread ↔ FallbacksNotNull s := by
  induction s using partsInduction with
  | step s ih =>
  have hparts : ∀ t ∈ s.parts, (Same t t.reread ↔ FallbacksNotNull t) := fun t ht =>
    ih t ht (formed.of_mem_parts ht) (ordered.of_mem_parts ht)
  have hown := formed.here
  rw [FallbacksNotNull, everywhere_iff]
  cases s with
  | string | integer | number | boolean | null | any | literal =>
    exact iff_of_true (same_refl formed.namesApart ordered) ⟨trivial, fun t ht => nomatch ht⟩
  | array items lo hi =>
    rw [reread, same_iff, layer_array_iff, hparts _ List.mem_cons_self]
    exact ⟨fun h => ⟨trivial, List.forall_mem_singleton.mpr h⟩, fun h => h.2 _ List.mem_cons_self⟩
  | optional inner =>
    rw [reread, same_iff, layer_optional_iff, hparts _ List.mem_cons_self]
    exact ⟨fun h => ⟨trivial, List.forall_mem_singleton.mpr h⟩, fun h => h.2 _ List.mem_cons_self⟩
  | union variants =>
    have hall : List.Forall₂ Same variants (rereadVariants variants) ↔
        ∀ t ∈ variants, FallbacksNotNull t := by
      rw [rereadVariants_eq, List.forall₂_map_right_iff, List.forall₂_same]
      exact forall₂_congr hparts
    rw [reread, same_iff, layer_union_iff, hall]
    exact ⟨fun h => ⟨trivial, h⟩, And.right⟩
  | conditional mapping =>
    have hall : Named.Alike Same mapping (Named.arranged (rereadMembers mapping)) ↔
        ∀ t ∈ (conditional mapping).parts, FallbacksNotNull t := by
      rw [rereadMembers_eq, Named.alike_arranged_iff hown, parts, List.forall_mem_map]
      exact forall₂_congr fun e he => hparts _ (List.mem_map_of_mem he)
    rw [reread, same_iff, layer_conditional_iff, hall]
    exact ⟨fun h => ⟨trivial, h⟩, And.right⟩
  | object model =>
    obtain ⟨name, fields, forceList, strict, denyUnknown⟩ := model
    have hall : Named.Alike (FieldsAlike Same) fields (Named.arranged (rereadFields fields)) ↔
        (∀ e ∈ fields, e.2.fallback ≠ some .null) ∧
          ∀ e ∈ fields, FallbacksNotNull e.2.schema := by
      rw [rereadFields_eq, ← forall₂_and,
        Named.alike_arranged_iff (f := fun f => rereadField f.schema.reread f) hown.1]
      refine forall₂_congr fun e he => ?_
      rw [fieldsAlike_reread, hparts _ (List.mem_map.mpr ⟨e, he, rfl⟩), and_comm]
    rw [same_iff, parts, List.forall_mem_map]
    exact layer_object_iff.trans hall

def OwnChoiceInOrder : Schema → Prop
  | conditional mapping => Named.Ascending mapping
  | _ => True

/-- Every choice by content type in the schema, at any depth, lists its members in the order of their
names. -/
def ChoicesInOrder (s : Schema) : Prop := Everywhere OwnChoiceInOrder s

theorem typeNames_eq (variants : List Schema) : typeNames variants = variants.map typeName := by
  induction variants with
  | nil => rfl
  | cons s rest ih => rw [typeNames, ih, List.map_cons]

theorem memberTypeNames_eq (mapping : List (String × Schema)) :
    memberTypeNames mapping = mapping.map fun e => e.2.typeName := by
  induction mapping with
  | nil => rfl
  | cons e rest ih => rw [memberTypeNames, ih, List.map_cons]

theorem arranged_rereadMembers {mapping : List (String × Schema)} (h : Named.Ascending mapping) :
    Named.arranged (rereadMembers mapping) = mapping.map fun e => (e.1, e.2.reread) := by
  rw [rereadMembers_eq, Named.arranged_map, Named.arranged_eq_self h]

theorem typeName_reread {s : Schema} (inOrder : ChoicesInOrder s) :
    s.reread.typeName = s.typeName := by
  induction s using partsInduction with
  | step s ih =>
  have hparts : ∀ t ∈ s.parts, t.reread.typeName = t.typeName := fun t ht =>
    ih t ht (inOrder.of_mem_parts ht)
  cases s with
  | array items lo hi => rw [reread, typeName, typeName, hparts _ List.mem_cons_self]
  | optional inner => rw [reread, typeName, typeName, hparts _ List.mem_cons_self]
  | union variants =>
    rw [reread, typeName, typeName, rereadVariants_eq, typeNames_eq, typeNames_eq, List.map_map]
    exact congrArg (fun names => "Union[" ++ Text.join ", " names ++ "]")
      (List.map_congr_left hparts)
  | conditional mapping =>
    rw [reread, arranged_rereadMembers inOrder.here, typeName, typeName, memberTypeNames_eq,
      memberTypeNames_eq, List.map_map]
    exact congrArg (fun names => "Union[" ++ Text.join ", " names ++ "]")
      (List.map_congr_left fun e he => hparts _ (List.mem_map_of_mem he))
  | _ => rfl

/-- The same output, and the same details in some order. -/
structure Kept (c d : Checked Json) : Prop where
  output : c.1 = d.1
  details : c.2.Perm d.2

theorem Kept.refl (c : Checked Json) : Kept c c := ⟨rfl, .refl _⟩

theorem Kept.placed {c d : Checked Json} (h : Kept c d) (path : List Step) :
    Kept (Schema.placed path [] c) (Schema.placed path [] d) :=
  ⟨h.output, h.details.map _⟩

theorem Kept.accepted {c d : Checked Json} (h : Kept c d) :
    Schema.accepted c = Schema.accepted d := by
  obtain ⟨out, ds⟩ := c
  obtain ⟨out', es⟩ := d
  obtain ⟨rfl, hdetails⟩ := h
  cases ds with
  | nil => rw [hdetails.nil_eq]
  | cons d ds =>
    cases es with
    | nil => cases hdetails.eq_nil
    | cons e es => rw [accepted_cons, accepted_cons]

theorem kept_arrayOutcome {o o' : Json → Checked Json} (h : ∀ v, Kept (o v) (o' v))
    (lo hi : Option UInt64) (vs : List Json) :
    Kept (arrayOutcome o lo hi vs) (arrayOutcome o' lo hi vs) := by
  have houtput : (fun v => (o v).1) = fun v => (o' v).1 := funext fun v => (h v).output
  refine ⟨?_, ?_⟩
  · simp only [arrayOutcome, itemOutputs, houtput]
  · exact (List.Perm.flatMap_left _ fun e _ => (h e.1).details.map _).append_left _

theorem kept_choiceOutcome {variants : List Schema} {v : Json} {mode : Mode}
    (hnames : ∀ s ∈ variants, s.reread.typeName = s.typeName)
    (h : ∀ s ∈ variants, Kept (s.outcome v mode) (s.reread.outcome v mode)) :
    Kept (choiceOutcome variants v mode) (choiceOutcome (variants.map reread) v mode) := by
  have hfound : (variants.map reread).findSome? (fun s => Schema.accepted (s.outcome v mode)) =
      variants.findSome? fun s => Schema.accepted (s.outcome v mode) := by
    rw [← List.head?_filterMap, ← List.head?_filterMap, List.filterMap_map]
    exact congrArg List.head? (List.filterMap_congr fun s hs => (h s hs).accepted.symm)
  have hdetails : (choiceDetails variants v mode).Perm
      (choiceDetails (variants.map reread) v mode) := by
    rw [choiceDetails, choiceDetails, List.flatMap_map]
    refine List.Perm.flatMap_left _ fun s hs => ?_
    rw [hnames s hs]
    exact (h s hs).details.map _
  rw [choiceOutcome, choiceOutcome, hfound]
  cases variants.findSome? fun s => Schema.accepted (s.outcome v mode) with
  | some w => exact .refl _
  | none => exact ⟨rfl, hdetails⟩

theorem rereadField_eq {f : Field Schema} (notNull : f.fallback ≠ some .null) (s : Schema) :
    rereadField s f = { f with schema := s } := by
  obtain ⟨schema, required, alias?, fallback⟩ := f
  cases fallback with
  | none => rfl
  | some v =>
    cases v with
    | null => exact absurd rfl notNull
    | _ => rfl

theorem kept_fieldOutcome {f : Field Schema} {mode : Mode} (notNull : f.fallback ≠ some .null)
    (h : ∀ v, Kept (f.schema.outcome v mode) (f.schema.reread.outcome v mode))
    (members : List (String × Json)) (name : String) :
    Kept (fieldOutcome members mode name f)
      (fieldOutcome members mode name (rereadField f.schema.reread f)) := by
  rw [rereadField_eq notNull]
  unfold fieldOutcome
  dsimp only [Field.wireName]
  cases memberFor (f.alias?.getD name) name members with
  | some v => exact (h v).placed _
  | none => exact .refl _

theorem rereadFields_perm (fields : List (String × Field Schema)) :
    (fields.map fun e => (e.1, rereadField e.2.schema.reread e.2)).Perm
      (Named.arranged (rereadFields fields)) := by
  rw [rereadFields_eq]
  exact (Named.arranged_perm _).symm

theorem kept_objectOutcome {model : Model Schema} {members : List (String × Json)} {mode : Mode}
    (distinct : (model.fields.map Prod.fst).Nodup)
    (h : ∀ e ∈ model.fields, Kept (fieldOutcome members (mode.inside model.strict) e.1 e.2)
      (fieldOutcome members (mode.inside model.strict) e.1 (rereadField e.2.schema.reread e.2))) :
    Kept (objectOutcome model members mode)
      (objectOutcome { model with fields := Named.arranged (rereadFields model.fields) } members
        mode) := by
  have hreread := rereadFields_perm model.fields
  have houtputs : (fieldOutputs members (mode.inside model.strict) model.fields).Perm
      (fieldOutputs members (mode.inside model.strict)
        (Named.arranged (rereadFields model.fields))) := by
    refine List.Perm.trans (.of_eq ?_) (hreread.filterMap _)
    rw [fieldOutputs, List.filterMap_map]
    exact List.filterMap_congr fun e he =>
      congrArg (Option.map fun w => (e.1, w)) (h e he).output
  have hdetails : (fieldDetails members (mode.inside model.strict) model.fields).Perm
      (fieldDetails members (mode.inside model.strict)
        (Named.arranged (rereadFields model.fields))) := by
    refine List.Perm.trans ?_ (hreread.flatMap_right _)
    rw [fieldDetails, List.flatMap_map]
    exact List.Perm.flatMap_left _ fun e he => (h e he).details
  have hunknown : unknownMembers model members [] = unknownMembers
      { model with fields := Named.arranged (rereadFields model.fields) } members [] := by
    refine unknownMembers_of_perm (List.Perm.trans (.of_eq ?_) (hreread.map _)) members []
    rw [List.map_map]
    rfl
  have hall : (objectDetails model members mode).Perm (objectDetails
      { model with fields := Named.arranged (rereadFields model.fields) } members mode) := by
    rw [objectDetails, objectDetails, hunknown]
    exact hdetails.append_right _
  -- Outputs are sorted into the object, so that their order does not show.
  have hnames := distinct.sublist (names_fieldOutputs_sublist members (mode.inside model.strict) _)
  refine ⟨?_, hall⟩
  simp only [objectOutcome, hall.isEmpty_eq, Json.sortMembers_eq_arranged hnames,
    Json.sortMembers_eq_arranged ((houtputs.map Prod.fst).nodup_iff.mp hnames),
    Named.arranged_eq_of_perm hnames houtputs]

/-- A schema and what is read from its form make the same of every value. -/
theorem kept_outcome {s : Schema} (apart : NamesApart s) (notNull : FallbacksNotNull s)
    (inOrder : ChoicesInOrder s) (v : Json) (mode : Mode) :
    Kept (s.outcome v mode) (s.reread.outcome v mode) := by
  induction s using partsInduction generalizing v mode with
  | step s ih =>
  have hparts : ∀ t ∈ s.parts, ∀ v mode, Kept (t.outcome v mode) (t.reread.outcome v mode) :=
    fun t ht v mode => ih t ht (apart.of_mem_parts ht) (notNull.of_mem_parts ht)
      (inOrder.of_mem_parts ht) v mode
  have hnames : ∀ t ∈ s.parts, t.reread.typeName = t.typeName := fun t ht =>
    typeName_reread (inOrder.of_mem_parts ht)
  cases s with
  | string | integer | number | boolean | null | any | literal => exact .refl _
  | optional inner =>
    rw [reread, outcome_optional, outcome_optional]
    split
    · exact .refl _
    · exact hparts _ List.mem_cons_self v mode
  | array items lo hi =>
    cases v with
    | array vs =>
      rw [reread, outcome_array, outcome_array]
      exact kept_arrayOutcome (fun v => hparts _ List.mem_cons_self v mode) lo hi vs
    | _ => exact .refl _
  | object model =>
    cases v with
    | object members =>
      rw [outcome_object, reread, outcome_object]
      refine kept_objectOutcome apart.here fun e he => ?_
      exact kept_fieldOutcome (notNull.here e he)
        (fun v => hparts _ (List.mem_map.mpr ⟨e, he, rfl⟩) v _) members e.1
    | _ => exact .refl _
  | union variants =>
    rw [reread, outcome_union, outcome_union, rereadVariants_eq]
    exact kept_choiceOutcome hnames fun t ht => hparts t ht v mode
  | conditional mapping =>
    have hvalues : (mapping.map fun e => (e.1, e.2.reread)).map Prod.snd =
        (mapping.map Prod.snd).map reread := by
      rw [List.map_map, List.map_map]
      rfl
    rw [reread, arranged_rereadMembers inOrder.here, outcome_conditional, outcome_conditional,
      hvalues]
    exact kept_choiceOutcome hnames fun t ht => hparts t ht v mode

theorem validate_kept {s t : Schema} {v : Json} {strict : Option Bool}
    (h : Kept (s.outcome v ⟨strict, false⟩) (t.outcome v ⟨strict, false⟩)) :
    AnswersAlike Eq List.Perm (s.validate v strict) (t.validate v strict) :=
  validate_alike (congrArg (fun out => out.getD .null) h.output) h.details h.details.length_eq

/-- Every schema whose patterns compile and whose bounds are finite can be read from its form. What is read
equals it if and only if no fallback in it is null. Then both accept the same values, and refuse others with
equally many details; and where every choice lists its members in the order of their names, they make the
same of each value and refuse others with the same details. -/
theorem form_keeps_meaning {s : Schema} (formed : Formed s) (compile : PatternsCompile s)
    (finite : BoundsFinite s) :
    ∃ t, ofJson? s.toJson = some t ∧ (s.same t = true ↔ FallbacksNotNull s) ∧
      (FallbacksNotNull s → ∀ v strict, CountedAlike (s.validate v strict) (t.validate v strict)) ∧
      (FallbacksNotNull s → ChoicesInOrder s → ∀ v strict,
        AnswersAlike Eq List.Perm (s.validate v strict) (t.validate v strict)) := by
  refine ⟨s.reread, ofJson?_toJson formed compile finite, same_reread_iff formed finite.ordered, ?_, ?_⟩
  · intro notNull v strict
    have hsame := (same_reread_iff formed finite.ordered).mpr notNull
    exact validate_countedAlike (tally_outcome_of_same formed.namesApart hsame v _)
  · intro notNull inOrder v strict
    exact validate_kept (kept_outcome formed.namesApart notNull inOrder v _)

def noteSchema : Schema := object {
  name := "Note"
  fields := [
    ("title", { schema := string (some 1) none (some "^[a-z]+$") }),
    ("pages", { schema := integer (some 0) none, required := false, fallback := some (.int 1) }),
    ("width", { schema := number (some (.finite .zero)) none, required := false })]
  forceList := ["tags"] }

theorem noteSchema_kept : Formed noteSchema ∧ PatternsCompile noteSchema ∧ BoundsFinite noteSchema ∧
    ∃ t, ofJson? noteSchema.toJson = some t ∧ noteSchema.same t = true ∧
      ∀ v strict, AnswersAlike Eq List.Perm (noteSchema.validate v strict) (t.validate v strict) := by
  have formed : Formed noteSchema := by
    simp [Formed, noteSchema, OwnPartsFormed, Json.normalize]
  have compile : PatternsCompile noteSchema := by decide +kernel
  have finite : BoundsFinite noteSchema := by
    simp [BoundsFinite, noteSchema, OwnBoundsFinite]
  have notNull : FallbacksNotNull noteSchema := by
    simp [FallbacksNotNull, noteSchema, OwnFallbacksNotNull]
  have inOrder : ChoicesInOrder noteSchema := by
    simp [ChoicesInOrder, noteSchema, OwnChoiceInOrder]
  obtain ⟨t, hread, hsame, -, hkept⟩ := form_keeps_meaning formed compile finite
  exact ⟨formed, compile, finite, t, hread, hsame.mpr notNull, hkept notNull inOrder⟩

def nullBox : Schema := object {
  name := "Box"
  fields := [("x", { schema := any, required := false, fallback := some .null })] }

def pageChoice : Schema :=
  conditional [("text/plain", integer none none), ("text/html", string none none none)]

/-- A fallback that is null is not read back, so that the field is left out where it was null before; and
a choice is read back in another order, in which another member is the first to take a value. -/
theorem form_loses_meaning :
    (∃ t, ofJson? nullBox.toJson = some t ∧ nullBox.same t = false ∧
      nullBox.validate (.object []) none = .ok (.object [("x", .null)]) ∧
      t.validate (.object []) none = .ok (.object [])) ∧
    ∃ t, ofJson? pageChoice.toJson = some t ∧ pageChoice.same t = true ∧
      pageChoice.validate (.string "1") none = .ok (.int 1) ∧
      t.validate (.string "1") none = .ok (.string "1") :=
  ⟨⟨_, rfl, rfl, rfl, rfl⟩, ⟨_, rfl, rfl, rfl, rfl⟩⟩

end Schema

end Accord
