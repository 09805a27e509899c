import Accord.Component.RequestModel
import Accord.Proofs.Negotiation.Serving

namespace Accord

namespace Serving

variable {α β : Type}

/-- What holds of the decisions before the step holds behind it, whether the step fails or not. -/
def Keeps (I : Decisions → Prop) (x : Serving α) : Prop := ∀ d, I d → I (x.run.run d).2

section Keeps

variable {I : Decisions → Prop}

theorem keeps_pure (a : α) : Keeps I (pure a : Serving α) := fun _ h => h

theorem keeps_throw (failure : Failure) : Keeps I (throw failure : Serving α) := fun _ h => h

theorem keeps_liftM (x : Except Failure α) : Keeps I (liftM x : Serving α) := by
  intro d h
  rw [run_liftM]
  exact h

theorem Keeps.bind {x : Serving α} {f : α → Serving β} (hx : Keeps I x) (hf : ∀ a, Keeps I (f a)) :
    Keeps I (x >>= f) := by
  intro d h
  have hkept := hx d h
  rw [run_bind]
  generalize x.run.run d = out at hkept ⊢
  obtain ⟨_ | a, d₁⟩ := out
  · exact hkept
  · exact hf a d₁ hkept

theorem Keeps.adapt {x : Serving α} (hx : Keeps I x) (f : Failure → Failure) :
    Keeps I (ExceptT.adapt f x) := by
  intro d h
  have hkept := hx d h
  rw [run_adapt]
  generalize x.run.run d = out at hkept ⊢
  obtain ⟨_ | a, d₁⟩ := out <;> exact hkept

theorem keeps_withForm (step : FormState α) (hform : ∀ d form, I d → I { d with form? := form }) :
    Keeps I (withForm step) := by
  intro d h
  rw [run_withForm]
  rcases step d.form? with _ | ⟨a, form⟩
  · exact h
  · exact hform d form h

end Keeps

/-- The renderer that is held before the step is held behind it, whether the step fails or not. -/
def KeepsRenderer (x : Serving α) : Prop :=
  ∀ d held, d.renderer? = some held → (x.run.run d).2.renderer? = some held

theorem keepsRenderer_iff {x : Serving α} :
    KeepsRenderer x ↔ ∀ held, Keeps (fun d => d.renderer? = some held) x :=
  ⟨fun h held d => h d held, fun h d held => h held d⟩

theorem keepsRenderer_pure (a : α) : KeepsRenderer (pure a) := fun _ _ h => h

theorem keepsRenderer_throw (failure : Failure) : KeepsRenderer (throw failure : Serving α) :=
  fun _ _ h => h

theorem keepsRenderer_get : KeepsRenderer (get : Serving Decisions) := fun _ _ h => h

theorem keepsRenderer_liftM (x : Except Failure α) : KeepsRenderer (liftM x : Serving α) :=
  keepsRenderer_iff.mpr fun _ => keeps_liftM x

theorem KeepsRenderer.bind {x : Serving α} {f : α → Serving β} (hx : KeepsRenderer x)
    (hf : ∀ a, KeepsRenderer (f a)) : KeepsRenderer (x >>= f) :=
  keepsRenderer_iff.mpr fun held =>
    (keepsRenderer_iff.mp hx held).bind fun a => keepsRenderer_iff.mp (hf a) held

theorem KeepsRenderer.adapt {x : Serving α} (hx : KeepsRenderer x) (f : Failure → Failure) :
    KeepsRenderer (ExceptT.adapt f x) :=
  keepsRenderer_iff.mpr fun held => (keepsRenderer_iff.mp hx held).adapt f

theorem KeepsRenderer.foldlM {f : β → α → Serving β} {steps : List α}
    (h : ∀ a ∈ steps, ∀ b, KeepsRenderer (f b a)) (start : β) :
    KeepsRenderer (steps.foldlM f start) := by
  induction steps generalizing start with
  | nil => exact keepsRenderer_pure start
  | cons a rest ih =>
    rw [List.foldlM_cons]
    exact (h a List.mem_cons_self start).bind (ih fun a ha => h a (List.mem_cons_of_mem _ ha))

theorem keepsRenderer_parserStep (parsers : BodyParsers) (r : Request) :
    KeepsRenderer (parser parsers r) := by
  intro d held h
  rw [run_parserStep]
  cases d.parser? with
  | some parser => exact h
  | none => cases parsers.choose r <;> exact h

theorem keepsRenderer_rendererStep (renderers : Renderers) (r : Request) :
    KeepsRenderer (renderer renderers r) := by
  intro d held h
  rw [run_rendererStep, h]
  exact h

end Serving

open Serving

theorem Component.keeps_of_mem_all {I : Decisions → Prop} {c : Component} (h : c ∈ Component.all)
    {parsers : BodyParsers} {r : Request} (hparser : Keeps I (parser parsers r))
    (hform : ∀ d form, I d → I { d with form? := form }) (s : Schema) :
    Keeps I (c.extract parsers r s) := by
  have hread : ∀ p : BodyParser,
      Keeps I (ExceptT.adapt unreadableBody (withForm (p.read r.body r s))) :=
    fun p => (keeps_withForm _ hform).adapt _
  simp only [Component.all, List.mem_cons, List.not_mem_nil, or_false] at h
  rcases h with rfl | rfl | rfl | rfl | rfl | rfl
  · exact keeps_pure _
  · exact hparser.bind hread
  · exact keeps_pure _
  · exact keeps_liftM _
  · exact keeps_pure _
  · refine hparser.bind fun p => ?_
    cases p.readFiles? with
    | none => exact keeps_throw _
    | some readFiles => exact keeps_withForm _ hform

/-- Taking the data of the component leaves the renderer alone that is held. -/
def Component.KeepsRenderer (c : Component) : Prop :=
  ∀ parsers r s, Serving.KeepsRenderer (c.extract parsers r s)

theorem Component.keepsRenderer_of_mem_all {c : Component} (h : c ∈ Component.all) :
    c.KeepsRenderer := fun parsers r s =>
  keepsRenderer_iff.mpr fun held => Component.keeps_of_mem_all h
    (keepsRenderer_iff.mp (keepsRenderer_parserStep parsers r) held) (fun _ _ h => h) s

end Accord
