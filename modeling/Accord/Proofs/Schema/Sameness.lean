import Accord.Proofs.Doubles
import Accord.Proofs.Json.Identity
import Accord.Proofs.Named
import Accord.Proofs.Schema.Parts
import Mathlib.Data.List.Perm.Subperm

namespace Accord

namespace Named

variable {α β γ : Type} {R : α → β → Prop} {S : β → γ → Prop} {xs : Named α} {ys : Named β}
  {zs : Named γ}

/-- As many names mean something on both sides, and what a name means on the left is related to what it
means on the right. -/
structure Alike (R : α → β → Prop) (xs : Named α) (ys : Named β) : Prop where
  length : xs.length = ys.length
  related : ∀ e ∈ xs, ∃ y, ys.lookup e.1 = some y ∧ R e.2 y

namespace Alike

theorem refl {R : α → α → Prop} (distinct : xs.names.Nodup) (h : ∀ e ∈ xs, R e.2 e.2) :
    Alike R xs xs :=
  ⟨rfl, fun e he => ⟨e.2, (lookup_iff_mem distinct).mpr he, h e he⟩⟩

theorem names_perm (distinct : xs.names.Nodup) (h : Alike R xs ys) : xs.names.Perm ys.names := by
  have hsub : xs.names ⊆ ys.names := by
    intro name hname
    obtain ⟨e, he, rfl⟩ := List.mem_map.mp hname
    obtain ⟨y, hy, -⟩ := h.related e he
    exact List.mem_map_of_mem (mem_of_lookup hy)
  refine (List.subperm_of_subset distinct hsub).perm_of_length_le (Nat.le_of_eq ?_)
  rw [names, names, List.length_map, List.length_map, h.length]

theorem symm {T : β → α → Prop} (distinctLeft : xs.names.Nodup) (distinctRight : ys.names.Nodup)
    (h : Alike R xs ys) (back : ∀ e ∈ xs, ∀ f ∈ ys, R e.2 f.2 → T f.2 e.2) : Alike T ys xs := by
  refine ⟨h.length.symm, fun e he => ?_⟩
  have hname : e.1 ∈ xs.names := (h.names_perm distinctLeft).mem_iff.mpr (List.mem_map_of_mem he)
  obtain ⟨⟨name, x⟩, hx, hsame⟩ := List.mem_map.mp hname
  obtain rfl : name = e.1 := hsame
  obtain ⟨y, hy, hrelated⟩ := h.related _ hx
  obtain rfl := Option.some.inj (hy.symm.trans ((lookup_iff_mem distinctRight).mpr he))
  exact ⟨x, (lookup_iff_mem distinctLeft).mpr hx, back _ hx _ he hrelated⟩

theorem trans {T : α → γ → Prop} (h : Alike R xs ys) (h' : Alike S ys zs)
    (through : ∀ e ∈ xs, ∀ y z, R e.2 y → S y z → T e.2 z) : Alike T xs zs := by
  refine ⟨h.length.trans h'.length, fun e he => ?_⟩
  obtain ⟨y, hy, hrelated⟩ := h.related e he
  obtain ⟨z, hz, hrelated'⟩ := h'.related _ (mem_of_lookup hy)
  exact ⟨z, hz, through e he y z hrelated hrelated'⟩

theorem map_perm {δ : Type} (distinct : xs.names.Nodup) (h : Alike R xs ys) {f : String × α → δ}
    {g : String × β → δ} (hfg : ∀ e ∈ xs, ∀ y, R e.2 y → f e = g (e.1, y)) :
    (xs.map f).Perm (ys.map g) := by
  have hnames := h.names_perm distinct
  have hleft : xs.names.filterMap (fun k => (ys.lookup k).map fun y => g (k, y)) = xs.map f := by
    rw [names, List.filterMap_map, ← List.filterMap_eq_map]
    refine List.filterMap_congr fun e he => ?_
    obtain ⟨y, hy, hrelated⟩ := h.related e he
    simp only [Function.comp_apply, hy, Option.map_some, hfg e he y hrelated]
  have hright : ys.names.filterMap (fun k => (ys.lookup k).map fun y => g (k, y)) = ys.map g := by
    rw [names, List.filterMap_map, ← List.filterMap_eq_map]
    refine List.filterMap_congr fun e he => ?_
    have hy := (lookup_iff_mem (hnames.nodup_iff.mp distinct)).mpr he
    simp only [Function.comp_apply, hy, Option.map_some]
  rw [← hleft, ← hright]
  exact hnames.filterMap _

end Alike

end Named

theorem forall₂_symm {α β : Type} {R : α → β → Prop} {T : β → α → Prop} {xs : List α} {ys : List β}
    (h : List.Forall₂ R xs ys) (back : ∀ x ∈ xs, ∀ y ∈ ys, R x y → T y x) : List.Forall₂ T ys xs := by
  induction h with
  | nil => exact .nil
  | cons hfirst _ ih =>
    refine .cons (back _ List.mem_cons_self _ List.mem_cons_self hfirst) (ih fun x hx y hy => ?_)
    exact back x (List.mem_cons_of_mem _ hx) y (List.mem_cons_of_mem _ hy)

theorem forall₂_trans {α β γ : Type} {R : α → β → Prop} {S : β → γ → Prop} {T : α → γ → Prop}
    {xs : List α} {ys : List β} {zs : List γ} (h : List.Forall₂ R xs ys) (h' : List.Forall₂ S ys zs)
    (through : ∀ x ∈ xs, ∀ y z, R x y → S y z → T x z) : List.Forall₂ T xs zs := by
  induction h generalizing zs with
  | nil =>
    cases h'
    exact .nil
  | cons hfirst _ ih =>
    cases h' with
    | cons hfirst' hrest' =>
      refine .cons (through _ List.mem_cons_self _ _ hfirst hfirst') (ih hrest' fun x hx => ?_)
      exact through x (List.mem_cons_of_mem _ hx)

namespace Schema

theorem sameBound_refl {x : Option Double} (h : x ≠ some .nan) : sameBound x x = true := by
  cases x with
  | none => rfl
  | some x => exact Double.sameValue_refl fun hx => h (congrArg some hx)

theorem sameBound_symm {x y : Option Double} (h : sameBound x y = true) : sameBound y x = true := by
  cases x <;> cases y
  · rfl
  · cases h
  · cases h
  · exact Double.sameValue_symm h

theorem sameBound_trans {x y z : Option Double} (h : sameBound x y = true)
    (h' : sameBound y z = true) : sameBound x z = true := by
  cases x with
  | none =>
    cases y with
    | none => exact h'
    | some y => cases h
  | some x =>
    cases y with
    | none => cases h
    | some y =>
      cases z with
      | none => cases h'
      | some z => exact Double.sameValue_trans h h'

theorem sameFallback_iff {v w : Option Json} :
    sameFallback v w = true ↔ v.map Json.unsignZeros = w.map Json.unsignZeros := by
  cases v <;> cases w <;> simp [sameFallback, Json.same_iff]

structure FieldsAlike (R : Schema → Schema → Prop) (f g : Field Schema) : Prop where
  schema : R f.schema g.schema
  required : f.required = g.required
  alias? : f.alias? = g.alias?
  fallback : f.fallback.map Json.unsignZeros = g.fallback.map Json.unsignZeros

/-- Two schemas of one kind that agree in all but their parts, which are related. -/
inductive Layer (R : Schema → Schema → Prop) : Schema → Schema → Prop
  | string {lo hi : Option UInt64} {pattern : Option String} :
      Layer R (string lo hi pattern) (string lo hi pattern)
  | integer {lo hi : Option Int64} : Layer R (integer lo hi) (integer lo hi)
  | number {lo hi lo' hi' : Option Double} (least : sameBound lo lo' = true)
      (most : sameBound hi hi' = true) : Layer R (number lo hi) (number lo' hi')
  | boolean : Layer R boolean boolean
  | null : Layer R null null
  | any : Layer R any any
  | literal {v w : Json} (value : v.unsignZeros = w.unsignZeros) : Layer R (literal v) (literal w)
  | array {s t : Schema} {lo hi : Option UInt64} (items : R s t) :
      Layer R (array s lo hi) (array t lo hi)
  | object {name : String} {fields fields' : List (String × Field Schema)}
      {forceList : List String} {strict : Option Bool} {denyUnknown : Bool}
      (members : Named.Alike (FieldsAlike R) fields fields') :
      Layer R (object ⟨name, fields, forceList, strict, denyUnknown⟩)
        (object ⟨name, fields', forceList, strict, denyUnknown⟩)
  | union {variants variants' : List Schema} (members : List.Forall₂ R variants variants') :
      Layer R (union variants) (union variants')
  | optional {s t : Schema} (inner : R s t) : Layer R (optional s) (optional t)
  | conditional {mapping mapping' : List (String × Schema)}
      (members : Named.Alike R mapping mapping') :
      Layer R (conditional mapping) (conditional mapping')

section Relation

variable {R : Schema → Schema → Prop}

theorem layer_array_iff {s t : Schema} {lo hi : Option UInt64} :
    Layer R (array s lo hi) (array t lo hi) ↔ R s t := by
  refine ⟨fun h => ?_, .array⟩
  cases h with
  | array hitems => exact hitems

theorem layer_optional_iff {s t : Schema} : Layer R (optional s) (optional t) ↔ R s t := by
  refine ⟨fun h => ?_, .optional⟩
  cases h with
  | optional hinner => exact hinner

theorem layer_union_iff {variants variants' : List Schema} :
    Layer R (union variants) (union variants') ↔ List.Forall₂ R variants variants' := by
  refine ⟨fun h => ?_, .union⟩
  cases h with
  | union hvariants => exact hvariants

theorem layer_conditional_iff {mapping mapping' : List (String × Schema)} :
    Layer R (conditional mapping) (conditional mapping') ↔ Named.Alike R mapping mapping' := by
  refine ⟨fun h => ?_, .conditional⟩
  cases h with
  | conditional hmembers => exact hmembers

theorem layer_object_iff {name : String} {fields fields' : List (String × Field Schema)}
    {forceList : List String} {strict : Option Bool} {denyUnknown : Bool} :
    Layer R (object ⟨name, fields, forceList, strict, denyUnknown⟩)
      (object ⟨name, fields', forceList, strict, denyUnknown⟩) ↔
      Named.Alike (FieldsAlike R) fields fields' := by
  refine ⟨fun h => ?_, .object⟩
  cases h with
  | object hfields => exact hfields

end Relation

def Same (s t : Schema) : Prop := s.same t = true

theorem and_eq_true {a b : Bool} (ha : a = true) (hb : b = true) : (a && b) = true :=
  Bool.and_eq_true_iff.mpr ⟨ha, hb⟩

theorem sameVariants_iff {ss ts : List Schema} :
    sameVariants ss ts = true ↔ List.Forall₂ Same ss ts := by
  induction ss generalizing ts with
  | nil => cases ts <;> simp [sameVariants]
  | cons s ss ih => cases ts <;> simp [sameVariants, ih, Same]

theorem sameFields_iff {fields others : List (String × Field Schema)} :
    sameFields fields others = true ↔
      ∀ e ∈ fields, ∃ f, others.lookup e.1 = some f ∧ FieldsAlike Same e.2 f := by
  induction fields with
  | nil => simp [sameFields]
  | cons e rest ih =>
    obtain ⟨name, ⟨s, required, alias?, fallback⟩⟩ := e
    rw [sameFields, Bool.and_eq_true, ih, List.forall_mem_cons]
    refine and_congr_left fun _ => ?_
    dsimp only
    cases others.lookup name with
    | none => simp
    | some f =>
      simp only [Bool.and_eq_true, beq_iff_eq, sameFallback_iff, Option.some.injEq,
        exists_eq_left']
      exact ⟨fun ⟨⟨⟨hs, hr⟩, ha⟩, hf⟩ => ⟨hs, hr, ha, hf⟩, fun ⟨hs, hr, ha, hf⟩ => ⟨⟨⟨hs, hr⟩, ha⟩, hf⟩⟩

theorem sameMembers_iff {mapping others : List (String × Schema)} :
    sameMembers mapping others = true ↔
      ∀ e ∈ mapping, ∃ s, others.lookup e.1 = some s ∧ Same e.2 s := by
  induction mapping with
  | nil => simp [sameMembers]
  | cons e rest ih =>
    obtain ⟨key, s⟩ := e
    rw [sameMembers, Bool.and_eq_true, ih, List.forall_mem_cons]
    refine and_congr_left fun _ => ?_
    dsimp only
    cases others.lookup key <;> simp [Same]

theorem Layer.same {s t : Schema} (h : Layer Same s t) : Same s t := by
  cases h with
  | @string lo hi pattern =>
    have hlengths := and_eq_true (beq_self_eq_true lo) (beq_self_eq_true hi)
    exact and_eq_true hlengths (beq_self_eq_true pattern)
  | @integer lo hi => exact and_eq_true (beq_self_eq_true lo) (beq_self_eq_true hi)
  | boolean | null | any => rfl
  | number hlo hhi => exact and_eq_true hlo hhi
  | literal hvalue => exact (Json.same_iff _ _).mpr hvalue
  | @array _ _ lo hi hitems =>
    exact and_eq_true (and_eq_true hitems (beq_self_eq_true lo)) (beq_self_eq_true hi)
  | @object name fields fields' forceList strict denyUnknown hfields =>
    have hlength : (fields.length == fields'.length) = true := beq_iff_eq.mpr hfields.length
    have hmembers := and_eq_true (and_eq_true (beq_self_eq_true name) hlength)
      (sameFields_iff.mpr hfields.related)
    have hflags := and_eq_true (and_eq_true hmembers (beq_self_eq_true forceList))
      (beq_self_eq_true strict)
    exact and_eq_true hflags (beq_self_eq_true denyUnknown)
  | union hvariants => exact sameVariants_iff.mpr hvariants
  | optional hinner => exact hinner
  | conditional hmembers =>
    exact and_eq_true (beq_iff_eq.mpr hmembers.length) (sameMembers_iff.mpr hmembers.related)

section Layers

variable {t : Schema}

theorem layer_string {lo hi : Option UInt64} {pattern : Option String}
    (h : Same (string lo hi pattern) t) : Layer Same (string lo hi pattern) t := by
  cases t with
  | string lo' hi' pattern' =>
    obtain ⟨hlengths, hpattern⟩ := Bool.and_eq_true_iff.mp h
    obtain ⟨hlo, hhi⟩ := Bool.and_eq_true_iff.mp hlengths
    obtain rfl := eq_of_beq hlo
    obtain rfl := eq_of_beq hhi
    obtain rfl := eq_of_beq hpattern
    exact .string
  | _ => cases h

theorem layer_integer {lo hi : Option Int64} (h : Same (integer lo hi) t) :
    Layer Same (integer lo hi) t := by
  cases t with
  | integer lo' hi' =>
    obtain ⟨hlo, hhi⟩ := Bool.and_eq_true_iff.mp h
    obtain rfl := eq_of_beq hlo
    obtain rfl := eq_of_beq hhi
    exact .integer
  | _ => cases h

theorem layer_number {lo hi : Option Double} (h : Same (number lo hi) t) :
    Layer Same (number lo hi) t := by
  cases t with
  | number lo' hi' =>
    obtain ⟨hlo, hhi⟩ := Bool.and_eq_true_iff.mp h
    exact .number hlo hhi
  | _ => cases h

theorem layer_literal {v : Json} (h : Same (literal v) t) : Layer Same (literal v) t := by
  cases t with
  | literal w => exact .literal ((Json.same_iff v w).mp h)
  | _ => cases h

theorem layer_array {items : Schema} {lo hi : Option UInt64} (h : Same (array items lo hi) t) :
    Layer Same (array items lo hi) t := by
  cases t with
  | array items' lo' hi' =>
    obtain ⟨hpart, hhi⟩ := Bool.and_eq_true_iff.mp h
    obtain ⟨hitems, hlo⟩ := Bool.and_eq_true_iff.mp hpart
    obtain rfl := eq_of_beq hlo
    obtain rfl := eq_of_beq hhi
    exact .array hitems
  | _ => cases h

theorem layer_object {model : Model Schema} (h : Same (object model) t) :
    Layer Same (object model) t := by
  cases t with
  | object model' =>
    obtain ⟨name, fields, forceList, strict, denyUnknown⟩ := model
    obtain ⟨name', fields', forceList', strict', denyUnknown'⟩ := model'
    have hparts : (name == name' && fields.length == fields'.length && sameFields fields fields' &&
      forceList == forceList' && strict == strict' && denyUnknown == denyUnknown') = true := h
    simp only [Bool.and_eq_true, beq_iff_eq, sameFields_iff] at hparts
    obtain ⟨⟨⟨⟨⟨rfl, hlength⟩, hfields⟩, rfl⟩, rfl⟩, rfl⟩ := hparts
    exact .object ⟨hlength, hfields⟩
  | _ => cases h

theorem layer_union {variants : List Schema} (h : Same (union variants) t) :
    Layer Same (union variants) t := by
  cases t with
  | union variants' => exact .union (sameVariants_iff.mp h)
  | _ => cases h

theorem layer_optional {inner : Schema} (h : Same (optional inner) t) :
    Layer Same (optional inner) t := by
  cases t with
  | optional inner' => exact .optional h
  | _ => cases h

theorem layer_conditional {mapping : List (String × Schema)} (h : Same (conditional mapping) t) :
    Layer Same (conditional mapping) t := by
  cases t with
  | conditional mapping' =>
    obtain ⟨hlength, hmembers⟩ := Bool.and_eq_true_iff.mp h
    exact .conditional ⟨eq_of_beq hlength, sameMembers_iff.mp hmembers⟩
  | _ => cases h

end Layers

/-- Schemas are the same if they agree layer by layer. -/
theorem same_iff {s t : Schema} : Same s t ↔ Layer Same s t := by
  refine ⟨fun h => ?_, Layer.same⟩
  cases s with
  | string => exact layer_string h
  | integer => exact layer_integer h
  | number => exact layer_number h
  | boolean =>
    cases t with
    | boolean => exact .boolean
    | _ => cases h
  | null =>
    cases t with
    | null => exact .null
    | _ => cases h
  | any =>
    cases t with
    | any => exact .any
    | _ => cases h
  | literal => exact layer_literal h
  | array => exact layer_array h
  | object => exact layer_object h
  | union => exact layer_union h
  | optional => exact layer_optional h
  | conditional => exact layer_conditional h

def OwnNamesApart : Schema → Prop
  | object model => (model.fields.map Prod.fst).Nodup
  | conditional mapping => (mapping.map Prod.fst).Nodup
  | _ => True

/-- Wherever names stand in the schema, no name stands twice. -/
def NamesApart (s : Schema) : Prop := Everywhere OwnNamesApart s

theorem same_refl {s : Schema} (apart : NamesApart s) (ordered : BoundsOrdered s) : Same s s := by
  induction s using partsInduction with
  | step s ih =>
  have hparts : ∀ t ∈ s.parts, Same t t := fun t ht =>
    ih t ht (apart.of_mem_parts ht) (ordered.of_mem_parts ht)
  have hown := apart.here
  have hbounds := ordered.here
  rw [same_iff]
  cases s with
  | string => exact .string
  | integer => exact .integer
  | number => exact .number (sameBound_refl hbounds.1) (sameBound_refl hbounds.2)
  | boolean => exact .boolean
  | null => exact .null
  | any => exact .any
  | literal => exact .literal rfl
  | array => exact .array (hparts _ List.mem_cons_self)
  | object model =>
    refine .object (.refl hown fun e he => ⟨hparts _ ?_, rfl, rfl, rfl⟩)
    exact List.mem_map.mpr ⟨e, he, rfl⟩
  | union variants => exact .union (List.forall₂_same.mpr hparts)
  | optional => exact .optional (hparts _ List.mem_cons_self)
  | conditional mapping =>
    exact .conditional (.refl hown fun e he => hparts _ (List.mem_map_of_mem he))

theorem same_symm {s t : Schema} (hs : NamesApart s) (ht : NamesApart t) (h : Same s t) :
    Same t s := by
  induction s using partsInduction generalizing t with
  | step s ih =>
  have hparts : ∀ u ∈ s.parts, ∀ v ∈ t.parts, Same u v → Same v u :=
    fun u hu v hv => ih u hu (hs.of_mem_parts hu) (ht.of_mem_parts hv)
  have hleft := hs.here
  have hright := ht.here
  rw [same_iff] at h ⊢
  cases h with
  | string => exact .string
  | integer => exact .integer
  | number hlo hhi => exact .number (sameBound_symm hlo) (sameBound_symm hhi)
  | boolean => exact .boolean
  | null => exact .null
  | any => exact .any
  | literal hvalue => exact .literal hvalue.symm
  | array hitems => exact .array (hparts _ List.mem_cons_self _ List.mem_cons_self hitems)
  | object hfields =>
    refine .object (hfields.symm hleft hright fun e he f hf hsame => ?_)
    have hschema := hparts _ (List.mem_map.mpr ⟨e, he, rfl⟩) _ (List.mem_map.mpr ⟨f, hf, rfl⟩)
    exact ⟨hschema hsame.schema, hsame.required.symm, hsame.alias?.symm, hsame.fallback.symm⟩
  | union hvariants => exact .union (forall₂_symm hvariants hparts)
  | optional hinner => exact .optional (hparts _ List.mem_cons_self _ List.mem_cons_self hinner)
  | conditional hmembers =>
    refine .conditional (hmembers.symm hleft hright fun e he f hf => ?_)
    exact hparts _ (List.mem_map_of_mem he) _ (List.mem_map_of_mem hf)

theorem same_trans {s t u : Schema} (h : Same s t) (h' : Same t u) : Same s u := by
  induction s using partsInduction generalizing t u with
  | step s ih =>
  rw [same_iff] at h h' ⊢
  cases h with
  | string => exact h'
  | integer => exact h'
  | number hlo hhi =>
    cases h' with
    | number hlo' hhi' => exact .number (sameBound_trans hlo hlo') (sameBound_trans hhi hhi')
  | boolean => exact h'
  | null => exact h'
  | any => exact h'
  | literal hvalue =>
    cases h' with
    | literal hvalue' => exact .literal (hvalue.trans hvalue')
  | array hitems =>
    cases h' with
    | array hitems' => exact .array (ih _ List.mem_cons_self hitems hitems')
  | object hfields =>
    cases h' with
    | object hfields' =>
      refine .object (hfields.trans hfields' fun e he f g hsame hsame' => ?_)
      have hschema := ih _ (List.mem_map.mpr ⟨e, he, rfl⟩) hsame.schema hsame'.schema
      exact ⟨hschema, hsame.required.trans hsame'.required, hsame.alias?.trans hsame'.alias?,
        hsame.fallback.trans hsame'.fallback⟩
  | union hvariants =>
    cases h' with
    | union hvariants' =>
      exact .union (forall₂_trans hvariants hvariants' fun s hs _ _ => ih s hs)
  | optional hinner =>
    cases h' with
    | optional hinner' => exact .optional (ih _ List.mem_cons_self hinner hinner')
  | conditional hmembers =>
    cases h' with
    | conditional hmembers' =>
      refine .conditional (hmembers.trans hmembers' fun e he _ _ => ?_)
      exact ih _ (List.mem_map_of_mem he)

end Schema

end Accord
