import Accord.Negotiation.Decisions

namespace Accord.Serving

variable {α β : Type}

@[simp] theorem run_pure (a : α) (d : Decisions) : (pure a : Serving α).run.run d = (.ok a, d) := rfl

@[simp] theorem run_liftM (x : Except Failure α) (d : Decisions) :
    (liftM x : Serving α).run.run d = (x, d) := by
  cases x <;> rfl

/-- A step that fails ends the run; what it has decided is held. -/
theorem run_bind (x : Serving α) (f : α → Serving β) (d : Decisions) :
    (x >>= f).run.run d =
      match x.run.run d with
      | (.ok a, d) => (f a).run.run d
      | (.error failure, d) => (.error failure, d) := by
  rw [ExceptT.run_bind, StateT.run_bind]
  rcases x.run.run d with ⟨_ | a, d⟩ <;> rfl

theorem run_bind_of_ok {x : Serving α} {a : α} {d d₁ : Decisions}
    (h : x.run.run d = (.ok a, d₁)) (f : α → Serving β) :
    (x >>= f).run.run d = (f a).run.run d₁ := by
  rw [run_bind, h]

theorem run_bind_of_error {x : Serving α} {failure : Failure} {d d₁ : Decisions}
    (h : x.run.run d = (.error failure, d₁)) (f : α → Serving β) :
    (x >>= f).run.run d = (.error failure, d₁) := by
  rw [run_bind, h]

theorem error_of_run_bind {x : Serving α} {f : α → Serving β} {failure : Failure} {d d₁ : Decisions}
    (h : (x >>= f).run.run d = (.error failure, d₁)) :
    x.run.run d = (.error failure, d₁) ∨
      ∃ a d₂, x.run.run d = (.ok a, d₂) ∧ (f a).run.run d₂ = (.error failure, d₁) := by
  rw [run_bind] at h
  rcases hx : x.run.run d with ⟨refusal | a, d₂⟩
  · rw [hx] at h
    cases h
    exact Or.inl rfl
  · rw [hx] at h
    exact Or.inr ⟨a, d₂, rfl, h⟩

theorem run_get_bind (f : Decisions → Serving β) (d : Decisions) :
    (get >>= f).run.run d = (f d).run.run d := rfl

theorem run_adapt (f : Failure → Failure) (x : Serving α) (d : Decisions) :
    (ExceptT.adapt f x : Serving α).run.run d =
      match x.run.run d with
      | (.ok a, d) => (.ok a, d)
      | (.error failure, d) => (.error (f failure), d) := by
  have hmap : (ExceptT.adapt f x : Serving α).run.run d =
      ((x.run.run d).1.mapError f, (x.run.run d).2) := rfl
  rw [hmap]
  rcases x.run.run d with ⟨_ | a, d⟩ <;> rfl

theorem error_of_adapt {f : Failure → Failure} {x : Serving α} {failure : Failure}
    {d d₁ : Decisions} (h : (ExceptT.adapt f x : Serving α).run.run d = (.error failure, d₁)) :
    ∃ refusal, x.run.run d = (.error refusal, d₁) ∧ failure = f refusal := by
  rw [run_adapt] at h
  split at h
  · cases h
  · next refusal d₂ hx =>
    cases h
    exact ⟨refusal, hx, rfl⟩

theorem run_withForm (step : FormState α) (d : Decisions) :
    (withForm step).run.run d =
      match step d.form? with
      | .ok (a, form) => (.ok a, { d with form? := form })
      | .error failure => (.error failure, d) := by
  unfold withForm
  rw [run_get_bind]
  rcases step d.form? with failure | ⟨a, form⟩ <;> rfl

theorem error_of_withForm {step : FormState α} {failure : Failure} {d d₁ : Decisions}
    (h : (withForm step).run.run d = (.error failure, d₁)) : step d.form? = .error failure := by
  rw [run_withForm] at h
  split at h
  · cases h
  · next hstep =>
    cases h
    exact hstep

theorem run_parserStep (parsers : BodyParsers) (r : Request) (d : Decisions) :
    (parser parsers r).run.run d =
      match d.parser? with
      | some held => (.ok held, d)
      | none =>
        match parsers.choose r with
        | .ok chosen => (.ok chosen, { d with parser? := some chosen })
        | .error failure => (.error failure, d) := by
  unfold parser
  rw [run_get_bind]
  rcases hd : d with ⟨_ | held, renderer?, form?⟩
  · cases parsers.choose r <;> rfl
  · rfl

theorem run_rendererStep (renderers : Renderers) (r : Request) (d : Decisions) :
    (renderer renderers r).run.run d =
      match d.renderer? with
      | some held => (.ok held, d)
      | none =>
        match renderers.choose r with
        | .ok chosen => (.ok chosen, { d with renderer? := some chosen })
        | .error failure => (.error failure, d) := by
  unfold renderer
  rw [run_get_bind]
  rcases hd : d with ⟨parser?, _ | held, form?⟩
  · cases renderers.choose r <;> rfl
  · rfl

theorem error_of_parserStep {parsers : BodyParsers} {r : Request} {d d₁ : Decisions}
    {failure : Failure} (h : (parser parsers r).run.run d = (.error failure, d₁)) :
    parsers.choose r = .error failure := by
  rw [run_parserStep] at h
  split at h
  · cases h
  · split at h
    · cases h
    · next hchoose =>
      cases h
      exact hchoose

theorem error_of_rendererStep {renderers : Renderers} {r : Request} {d d₁ : Decisions}
    {failure : Failure} (h : (renderer renderers r).run.run d = (.error failure, d₁)) :
    renderers.choose r = .error failure := by
  rw [run_rendererStep] at h
  split at h
  · cases h
  · split at h
    · cases h
    · next hchoose =>
      cases h
      exact hchoose

theorem held_of_rendererStep {renderers : Renderers} {r : Request} {d d₁ : Decisions}
    {chosen : Renderer} (h : (renderer renderers r).run.run d = (.ok chosen, d₁)) :
    d₁.renderer? = some chosen := by
  rw [run_rendererStep] at h
  split at h
  · next hheld =>
    cases h
    exact hheld
  · split at h
    · cases h
      rfl
    · cases h

theorem exists_rendererStep {renderers : Renderers} {r : Request} {chosen : Renderer}
    (h : renderers.choose r = .ok chosen) (d : Decisions) :
    ∃ held d₁, (renderer renderers r).run.run d = (.ok held, d₁) := by
  rw [run_rendererStep]
  cases d.renderer? with
  | some held => exact ⟨held, d, rfl⟩
  | none =>
    simp only [h]
    exact ⟨chosen, _, rfl⟩

theorem form_of_rendererStep {renderers : Renderers} {r : Request} {d d₁ : Decisions}
    {chosen : Renderer} (h : (renderer renderers r).run.run d = (.ok chosen, d₁)) :
    d₁.form? = d.form? := by
  rw [run_rendererStep] at h
  split at h
  · cases h
    rfl
  · split at h
    · cases h
      rfl
    · cases h

end Accord.Serving
