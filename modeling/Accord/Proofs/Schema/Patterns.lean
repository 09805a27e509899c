import Accord.Proofs.Schema.Parts

namespace Accord.Schema

def OwnPatternCompiles : Schema → Prop
  | string _ _ (some source) => ∃ e, Pattern.read source = .ok e
  | _ => True

def PatternsCompile (s : Schema) : Prop := Everywhere OwnPatternCompiles s

theorem checkFieldDefinitions_eq_ok_iff {fields : List (String × Field Schema)} :
    checkFieldDefinitions fields = .ok () ↔ ∀ e ∈ fields, e.2.schema.checkDefinition = .ok () := by
  induction fields with
  | nil => simp [checkFieldDefinitions]
  | cons e rest ih =>
    obtain ⟨name, ⟨s, required, alias?, fallback⟩⟩ := e
    rw [checkFieldDefinitions, List.forall_mem_cons, ← ih]
    dsimp only
    cases s.checkDefinition with
    | error failure => simp [bind, Except.bind]
    | ok _ => simp [bind, Except.bind]

theorem checkVariantDefinitions_eq_ok_iff {variants : List Schema} :
    checkVariantDefinitions variants = .ok () ↔ ∀ s ∈ variants, s.checkDefinition = .ok () := by
  induction variants with
  | nil => simp [checkVariantDefinitions]
  | cons s rest ih =>
    rw [checkVariantDefinitions, List.forall_mem_cons, ← ih]
    cases s.checkDefinition <;> simp [bind, Except.bind]

theorem checkMemberDefinitions_eq (mapping : List (String × Schema)) :
    checkMemberDefinitions mapping = checkVariantDefinitions (mapping.map Prod.snd) := by
  induction mapping with
  | nil => rfl
  | cons e rest ih => simp only [checkMemberDefinitions, checkVariantDefinitions, List.map_cons, ih]

theorem checkDefinition_eq_ok_iff {s : Schema} : s.checkDefinition = .ok () ↔ PatternsCompile s := by
  induction s using partsInduction with
  | step s ih =>
  have hparts : (∀ t ∈ s.parts, t.checkDefinition = .ok ()) ↔
      ∀ t ∈ s.parts, Everywhere OwnPatternCompiles t := forall₂_congr ih
  rw [PatternsCompile, everywhere_iff, ← hparts]
  cases s with
  | string lo hi pattern =>
    cases pattern with
    | none => simp [checkDefinition, parts, OwnPatternCompiles]
    | some source =>
      simp only [checkDefinition, parts, OwnPatternCompiles]
      cases Pattern.read source <;> simp
  | object model =>
    obtain ⟨name, fields, forceList, strict, denyUnknown⟩ := model
    have hfields : (∀ t ∈ parts (.object ⟨name, fields, forceList, strict, denyUnknown⟩),
        t.checkDefinition = .ok ()) ↔ ∀ e ∈ fields, e.2.schema.checkDefinition = .ok () :=
      List.forall_mem_map
    rw [hfields, checkDefinition, checkFieldDefinitions_eq_ok_iff]
    simp [OwnPatternCompiles]
  | union variants =>
    rw [checkDefinition, checkVariantDefinitions_eq_ok_iff]
    simp [parts, OwnPatternCompiles]
  | conditional mapping =>
    rw [checkDefinition, checkMemberDefinitions_eq, checkVariantDefinitions_eq_ok_iff]
    simp [parts, OwnPatternCompiles]
  | _ => simp [checkDefinition, parts, OwnPatternCompiles]

instance (s : Schema) : Decidable s.PatternsCompile :=
  match h : s.checkDefinition with
  | .ok () => isTrue (checkDefinition_eq_ok_iff.mp h)
  | .error _ => isFalse fun hcompile =>
    nomatch h.symm.trans (checkDefinition_eq_ok_iff.mpr hcompile)

end Accord.Schema
