import Accord.Negotiation.Choice

namespace Accord

structure Decisions where
  parser? : Slot BodyParser := none
  renderer? : Slot Renderer := none
  form? : Slot Form := none

namespace Decisions

/-- Holds a parser, unless one is held; gives the one that is held then. -/
def holdParser (p : BodyParser) (d : Decisions) : BodyParser × Decisions :=
  let (held, slot) := Slot.hold p d.parser?
  (held, { d with parser? := slot })

def holdRenderer (r : Renderer) (d : Decisions) : Renderer × Decisions :=
  let (held, slot) := Slot.hold r d.renderer?
  (held, { d with renderer? := slot })

/-- What is held stays; what is decided later is held where nothing is. -/
def followedBy (d later : Decisions) : Decisions where
  parser? := d.parser?.or later.parser?
  renderer? := d.renderer?.or later.renderer?
  form? := d.form?.or later.form?

end Decisions

/-- Effects of the code that a service is given. The code runs while some things are decided for the
request, and may decide others; code that only gives a value decides nothing. -/
class Deciding (m : Type → Type) [Monad m] where
  run {α : Type} : m α → Decisions → m (α × Decisions)
  run_pure {α : Type} (a : α) (d : Decisions) : run (pure a) d = pure (a, d)
  run_bind {α β : Type} (code : m α) (f : α → m β) (d : Decisions) :
    run (code >>= f) d = run code d >>= fun out => run (f out.1) out.2

namespace Deciding

instance : Deciding Id where
  run code d := (code, d)
  run_pure _ _ := rfl
  run_bind _ _ _ := rfl

variable {m : Type → Type} [Monad m] {σ : Type}

instance (priority := low) [LawfulMonad m] [Deciding m] : Deciding (StateT σ m) where
  run code d := fun s => do
    let ((a, s), d) ← run (code.run s) d
    return ((a, d), s)
  run_pure a d := by
    funext s
    change run (pure (a, s)) d >>= _ = _
    rw [run_pure, pure_bind]
    rfl
  run_bind code f d := by
    funext s
    change run (code.run s >>= fun out => (f out.1).run out.2) d >>= _ = _
    rw [run_bind, bind_assoc]
    change _ = (run (code.run s) d >>= _) >>= _
    rw [bind_assoc]
    refine bind_congr fun out => ?_
    rw [pure_bind]

def step [Deciding m] {α : Type} (code : m α) : StateT Decisions m α := fun d => do
  let (a, later) ← run code d
  return (a, d.followedBy later)

end Deciding

/-- Steps of serving a request. What a step decides is held even if a later one fails. -/
abbrev Serving := ExceptT Failure (StateM Decisions)

namespace Serving

def withForm {α : Type} (step : FormState α) : Serving α := do
  let d ← get
  match step d.form? with
  | .ok (a, form) =>
    set { d with form? := form }
    return a
  | .error failure => throw failure

def parser (parsers : BodyParsers) (r : Request) : Serving BodyParser := do
  match (← get).parser? with
  | some held => return held
  | none =>
    match parsers.choose r with
    | .ok chosen => modifyGet (Decisions.holdParser chosen)
    | .error failure => throw failure

/-- Makes a renderer the one of the request, unless one is held. -/
def forceRenderer (renderer : Renderer) : Serving Renderer :=
  modifyGet (Decisions.holdRenderer renderer)

def renderer (renderers : Renderers) (r : Request) : Serving Renderer := do
  match (← get).renderer? with
  | some held => return held
  | none =>
    match renderers.choose r with
    | .ok chosen => forceRenderer chosen
    | .error failure => throw failure

end Serving

end Accord
