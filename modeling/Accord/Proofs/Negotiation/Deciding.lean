import Accord.Negotiation.Decisions

namespace Accord

namespace Decisions

variable {d d₁ d₂ : Decisions}

structure Kept (d d₁ : Decisions) : Prop where
  parser {p : BodyParser} : d.parser? = some p → d₁.parser? = some p
  renderer {r : Renderer} : d.renderer? = some r → d₁.renderer? = some r
  form {f : Form} : d.form? = some f → d₁.form? = some f

theorem Kept.refl (d : Decisions) : d.Kept d := ⟨id, id, id⟩

theorem Kept.trans (h : d.Kept d₁) (h' : d₁.Kept d₂) : d.Kept d₂ :=
  ⟨h'.parser ∘ h.parser, h'.renderer ∘ h.renderer, h'.form ∘ h.form⟩

theorem kept_followedBy (d later : Decisions) : d.Kept (d.followedBy later) where
  parser h := by rw [followedBy, h, Option.some_or]
  renderer h := by rw [followedBy, h, Option.some_or]
  form h := by rw [followedBy, h, Option.some_or]

theorem followedBy_self (d : Decisions) : d.followedBy d = d := by
  obtain ⟨_ | p, _ | r, _ | f⟩ := d <;> rfl

end Decisions

namespace Deciding

section Pure

variable {m : Type → Type} [Monad m] [LawfulMonad m] [Deciding m] {α : Type}

theorem step_pure (a : α) : step (pure a : m α) = pure a := by
  funext d
  rw [step, run_pure, pure_bind]
  exact congrArg (fun held => pure (a, held)) d.followedBy_self

end Pure

variable {W α β : Type}

theorem run_bind_of_eq {x : StateT Decisions (StateM W) α} {a : α} {d d₁ : Decisions} {w w₁ : W}
    (h : (x.run d).run w = ((a, d₁), w₁)) (f : α → StateT Decisions (StateM W) β) :
    ((x >>= f).run d).run w = ((f a).run d₁).run w₁ :=
  congrArg (fun out : (α × Decisions) × W => ((f out.1.1).run out.1.2).run out.2) h

def Keeps (x : StateT Decisions (StateM W) α) : Prop :=
  ∀ (d : Decisions) (w : W), d.Kept ((x.run d).run w).1.2

theorem keeps_pure (a : α) : Keeps (pure a : StateT Decisions (StateM W) α) := fun d _ => .refl d

theorem Keeps.bind {x : StateT Decisions (StateM W) α} {f : α → StateT Decisions (StateM W) β}
    (hx : Keeps x) (hf : ∀ a, Keeps (f a)) : Keeps (x >>= f) := by
  intro d w
  have hfirst := hx d w
  rcases hrun : (x.run d).run w with ⟨⟨a, d₁⟩, w₁⟩
  rw [hrun] at hfirst
  rw [run_bind_of_eq hrun]
  exact hfirst.trans (hf a d₁ w₁)

theorem keeps_step [Deciding (StateM W)] (code : StateM W α) : Keeps (step code) :=
  fun d _ => d.kept_followedBy _

end Deciding

end Accord
