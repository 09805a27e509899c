import Accord.Contract.ErrorModel
import Accord.Proofs.Schema.FixedPoint

namespace Accord

open Schema

def Step.Indexable : Step → Prop
  | key _ => True
  | index n => n < signedLimit

def Detail.Indexable (d : Detail) : Prop := ∀ steps, d.path = some steps → ∀ step ∈ steps, step.Indexable

theorem outcome_plainInteger {n : Int} (h : -(signedLimit : Int) ≤ n ∧ n < signedLimit) (mode : Mode) :
    plainInteger.outcome (.int n) mode = (some (.int n), []) := by
  have hinteger : toInteger mode.isStrict (.int n) = .ok n := by
    simp only [toInteger, Json.int64?, if_pos h]
  have hleaf : leafVerdict? mode (.int n) plainInteger = some (.ok (.int n)) := by
    simp only [plainInteger, leafVerdict?, checkInteger, hinteger]
    rfl
  exact outcome_leaf hleaf

theorem outcome_stepSchema_int {n : Int} (h : -(signedLimit : Int) ≤ n ∧ n < signedLimit)
    (mode : Mode) : stepSchema.outcome (.int n) mode = (some (.int n), []) := by
  have hnotText : accepted (plainString.outcome (.int n) mode) = none := rfl
  rw [stepSchema, outcome_union, choiceOutcome]
  simp only [List.findSome?_cons, hnotText, outcome_plainInteger h, accepted_some_nil]

theorem Step.Indexable.range {n : Nat} (h : (Step.index n).Indexable) :
    -(signedLimit : Int) ≤ n ∧ (n : Int) < signedLimit := by
  simp only [Step.Indexable] at h
  omega

theorem outcome_stepSchema {step : Step} (h : step.Indexable) (mode : Mode) :
    stepSchema.outcome step.toJson mode = (some step.toJson, []) := by
  cases step with
  | key name => rfl
  | index n => exact outcome_stepSchema_int h.range mode

theorem outcome_steps {steps : List Step} (h : ∀ step ∈ steps, step.Indexable) (mode : Mode) :
    (listOf stepSchema).outcome (.array (steps.map Step.toJson)) mode =
      (some (.array (steps.map Step.toJson)), []) := by
  rw [listOf, outcome_array]
  refine arrayOutcome_settled rfl fun v hv => ?_
  obtain ⟨step, hstep, rfl⟩ := List.mem_map.mp hv
  exact outcome_stepSchema (h step hstep) mode

theorem outcome_detailSchema {d : Detail} (h : d.Indexable) (mode : Mode) :
    detailSchema.outcome d.toJson mode = (some d.toJson, []) := by
  obtain ⟨message, path, kind⟩ := d
  rw [Detail.toJson, detailSchema, outcome_object]
  cases path with
  | none => rfl
  | some steps =>
    have hloc : ∀ rest, fieldOutcome (("loc", .array (steps.map Step.toJson)) :: rest)
        (mode.inside none) "loc" (.asOptional { schema := listOf stepSchema }) =
        (some (.array (steps.map Step.toJson)), []) := by
      intro rest
      have hsteps := outcome_steps (h steps rfl) (mode.inside none)
      exact congrArg (placed [.key "loc"] []) hsteps
    simp only [objectOutcome, objectDetails, fieldDetails, fieldOutputs, List.flatMap_cons,
      List.filterMap_cons, List.cons_append, List.nil_append, hloc]
    rfl

theorem errorModel_validate_listing {details : List Detail} (h : ∀ d ∈ details, d.Indexable)
    (strict : Option Bool) :
    errorModel.validate (Failure.listing details) strict = .ok (Failure.listing details) := by
  have hlist : ∀ mode, (listOf detailSchema).outcome (.array (details.map Detail.toJson)) mode =
      (some (.array (details.map Detail.toJson)), []) := by
    intro mode
    rw [listOf, outcome_array]
    refine arrayOutcome_settled rfl fun v hv => ?_
    obtain ⟨d, hd, rfl⟩ := List.mem_map.mp hv
    exact outcome_detailSchema (h d hd) mode
  have hfield : ∀ mode, fieldOutcome [("detail", .array (details.map Detail.toJson))] mode "detail"
      { schema := listOf detailSchema } = (some (.array (details.map Detail.toJson)), []) :=
    fun mode => congrArg (placed [.key "detail"] []) (hlist mode)
  rw [validate_eq, Failure.listing, errorModel, outcome_object]
  simp only [objectOutcome, objectDetails, fieldDetails, fieldOutputs, List.flatMap_cons,
    List.filterMap_cons, hfield]
  rfl

end Accord
