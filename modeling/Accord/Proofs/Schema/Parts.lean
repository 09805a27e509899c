import Accord.Schema.Build

namespace Accord.Schema

def parts : Schema → List Schema
  | array items _ _ => [items]
  | object model => model.fields.map fun (_, f) => f.schema
  | union variants => variants
  | optional inner => [inner]
  | conditional mapping => mapping.map Prod.snd
  | _ => []

theorem sizeOf_lt_of_mem_parts {s t : Schema} (h : t ∈ s.parts) : sizeOf t < sizeOf s := by
  cases s with
  | array items lo hi =>
    cases List.mem_singleton.mp h
    simp only [array.sizeOf_spec]
    omega
  | optional inner =>
    cases List.mem_singleton.mp h
    simp only [optional.sizeOf_spec]
    omega
  | union variants =>
    have hlt : sizeOf t < sizeOf variants := List.sizeOf_lt_of_mem h
    simp only [union.sizeOf_spec]
    omega
  | conditional mapping =>
    obtain ⟨⟨key, s⟩, hm, rfl⟩ := List.mem_map.mp h
    have hlt := List.sizeOf_lt_of_mem hm
    simp only [Prod.mk.sizeOf_spec] at hlt
    simp only [conditional.sizeOf_spec]
    omega
  | object model =>
    obtain ⟨⟨name, f⟩, hm, rfl⟩ := List.mem_map.mp h
    have hlt := List.sizeOf_lt_of_mem hm
    cases f
    cases model
    simp only [Prod.mk.sizeOf_spec, Field.mk.sizeOf_spec] at hlt
    simp only [object.sizeOf_spec, Model.mk.sizeOf_spec]
    omega
  | _ => simp [parts] at h

/-- What holds of a schema whenever it holds of its parts holds of every schema. -/
@[elab_as_elim]
theorem partsInduction {P : Schema → Prop} (step : ∀ s, (∀ t ∈ s.parts, P t) → P s) (s : Schema) :
    P s :=
  step s fun t _ => partsInduction step t
termination_by sizeOf s
decreasing_by exact sizeOf_lt_of_mem_parts ‹_›

inductive Within (t : Schema) : Schema → Prop
  | whole : Within t t
  | part {s u : Schema} : u ∈ s.parts → Within t u → Within t s

/-- A property of a schema and of all that stands inside it. -/
def Everywhere (p : Schema → Prop) (s : Schema) : Prop := ∀ t, Within t s → p t

theorem everywhere_iff {p : Schema → Prop} {s : Schema} :
    Everywhere p s ↔ p s ∧ ∀ t ∈ s.parts, Everywhere p t := by
  constructor
  · intro h
    exact ⟨h s .whole, fun t ht u hu => h u (.part ht hu)⟩
  · rintro ⟨hs, hparts⟩ t ht
    cases ht with
    | whole => exact hs
    | part hu ht => exact hparts _ hu t ht

theorem Everywhere.here {p : Schema → Prop} {s : Schema} (h : Everywhere p s) : p s := h s .whole

theorem Everywhere.of_mem_parts {p : Schema → Prop} {s t : Schema} (h : Everywhere p s)
    (ht : t ∈ s.parts) : Everywhere p t := (everywhere_iff.mp h).2 t ht

theorem everywhere_iff_of_parts_nil {p : Schema → Prop} {s : Schema} (h : s.parts = []) :
    Everywhere p s ↔ p s := by
  rw [everywhere_iff, h]
  simp

section Leaves

variable {p : Schema → Prop}

@[simp] theorem everywhere_any : Everywhere p .any ↔ p .any := everywhere_iff_of_parts_nil rfl

@[simp] theorem everywhere_null : Everywhere p .null ↔ p .null := everywhere_iff_of_parts_nil rfl

@[simp] theorem everywhere_boolean : Everywhere p .boolean ↔ p .boolean :=
  everywhere_iff_of_parts_nil rfl

@[simp] theorem everywhere_literal {v : Json} : Everywhere p (.literal v) ↔ p (.literal v) :=
  everywhere_iff_of_parts_nil rfl

@[simp] theorem everywhere_string {lo hi : Option UInt64} {pattern : Option String} :
    Everywhere p (.string lo hi pattern) ↔ p (.string lo hi pattern) :=
  everywhere_iff_of_parts_nil rfl

@[simp] theorem everywhere_integer {lo hi : Option Int64} :
    Everywhere p (.integer lo hi) ↔ p (.integer lo hi) :=
  everywhere_iff_of_parts_nil rfl

@[simp] theorem everywhere_number {lo hi : Option Double} :
    Everywhere p (.number lo hi) ↔ p (.number lo hi) :=
  everywhere_iff_of_parts_nil rfl

end Leaves

@[simp] theorem everywhere_array {p : Schema → Prop} {items : Schema} {lo hi : Option UInt64} :
    Everywhere p (.array items lo hi) ↔ p (.array items lo hi) ∧ Everywhere p items := by
  rw [everywhere_iff]
  simp [parts]

@[simp] theorem everywhere_object {p : Schema → Prop} {model : Model Schema} :
    Everywhere p (.object model) ↔
      p (.object model) ∧ ∀ e ∈ model.fields, Everywhere p e.2.schema := by
  rw [everywhere_iff]
  exact and_congr_right fun _ => List.forall_mem_map

@[simp] theorem everywhere_union {p : Schema → Prop} {variants : List Schema} :
    Everywhere p (.union variants) ↔ p (.union variants) ∧ ∀ s ∈ variants, Everywhere p s :=
  everywhere_iff

@[simp] theorem everywhere_optional {p : Schema → Prop} {inner : Schema} :
    Everywhere p (.optional inner) ↔ p (.optional inner) ∧ Everywhere p inner := by
  rw [everywhere_iff]
  simp [parts]

@[simp] theorem everywhere_conditional {p : Schema → Prop} {mapping : List (String × Schema)} :
    Everywhere p (.conditional mapping) ↔
      p (.conditional mapping) ∧ ∀ e ∈ mapping, Everywhere p e.2 := by
  rw [everywhere_iff]
  exact and_congr_right fun _ => List.forall_mem_map

def IsEmptyChoice (s : Schema) : Prop := s = .union [] ∨ s = .conditional []

def ChoicesInhabited (s : Schema) : Prop := Everywhere (¬IsEmptyChoice ·) s

def OwnBoundsOrdered : Schema → Prop
  | number lo hi => lo ≠ some .nan ∧ hi ≠ some .nan
  | _ => True

/-- No bound in the schema, at any depth, is NaN. -/
def BoundsOrdered (s : Schema) : Prop := Everywhere OwnBoundsOrdered s

end Accord.Schema
