import Accord.Proofs.Negotiation.Deciding
import Accord.Service.Declaration

namespace Accord

inductive Event where
  /-- A provider was asked, known by its place in the list, and gave this answer. -/
  | asked (i : Nat) (answer : Except Failure (Option Json))
  | handled (input : HandlerInput)

def Event.isHandled : Event → Bool
  | handled _ => true
  | asked _ _ => false

def Event.provider? : Event → Option Nat
  | asked i _ => some i
  | handled _ => none

/-- Effects, and what is seen of them so far. -/
abbrev Watched (m : Type → Type) := StateT (List Event) m

section Watch

variable {m : Type → Type} [Monad m]

def see (event : Event) : Watched m Unit := modify fun seen => seen ++ [event]

def AuthProvider.watched (i : Nat) (p : AuthProvider m) : AuthProvider (Watched m) where
  identify := fun r => do
    let answer ← StateT.lift (p.identify r)
    see (.asked i answer)
    return answer

def watchFrom (i : Nat) : List (AuthProvider m) → List (AuthProvider (Watched m))
  | [] => []
  | p :: rest => p.watched i :: watchFrom (i + 1) rest

def Handler.watched (handler : Handler m) : Handler (Watched m) := fun input => do
  see (.handled input)
  StateT.lift (handler input)

def ErrorHandler.watched (handler : ErrorHandler m) : ErrorHandler (Watched m) :=
  fun r failure => StateT.lift (handler r failure)

def Contract.watched (c : Contract m) : Contract (Watched m) where
  method := c.method
  responses := c.responses
  validateResponses := c.validateResponses
  modification := c.modification
  errorHandler := c.errorHandler.map ErrorHandler.watched
  components := c.components
  parsers := c.parsers
  renderers := c.renderers
  auth := c.auth.map (watchFrom 0)
  skippedRules := c.skippedRules
  allowedMethods := c.allowedMethods
  summary := c.summary
  description := c.description
  tags := c.tags
  operationId := c.operationId
  deprecated := c.deprecated

def Endpoint.watched (e : Endpoint m) : Endpoint (Watched m) where
  name := e.name
  contract := e.contract.watched
  handler := e.handler.watched
  model := e.model
  serializer := e.serializer
  strictResponses := e.strictResponses
  sharedErrorHandler := e.sharedErrorHandler.map ErrorHandler.watched

end Watch

/-- The same effects and results, whatever has been seen before. -/
def Watches {m : Type → Type} [Monad m] {α : Type} (x : Watched m α) (y : m α) : Prop :=
  ∀ seen, Prod.fst <$> x.run seen = y

/-- The same effects and results, and what is seen is told by the result. -/
def Reports {m : Type → Type} [Monad m] {α : Type} (x : Watched m α) (y : m α) (events : α → List Event) :
    Prop :=
  ∀ seen, x.run seen = (fun a => (a, seen ++ events a)) <$> y

variable {m : Type → Type} [Monad m] [LawfulMonad m] {α β : Type}

theorem Watches.pure (a : α) : Watches (pure a : Watched m α) (pure a) := fun seen => by
  rw [StateT.run_pure, map_pure]

theorem Watches.bind {x : Watched m α} {y : m α} {f : α → Watched m β} {g : α → m β}
    (hx : Watches x y) (hf : ∀ a, Watches (f a) (g a)) : Watches (x >>= f) (y >>= g) := fun seen => by
  rw [StateT.run_bind, map_bind, ← hx seen, bind_map_left]
  exact bind_congr fun out => hf out.1 out.2

namespace Reports

variable {x : Watched m α} {y : m α} {events : α → List Event}

theorem watches (h : Reports x y events) : Watches x y := fun seen => by
  rw [h seen, Functor.map_map]
  exact id_map y

/-- Code that is watched says the same whatever is decided, and decides the same. -/
theorem step [Deciding m] (h : Reports x y events) (d : Decisions) :
    Reports ((Deciding.step x).run d) ((Deciding.step y).run d) fun out => events out.1 := fun seen => by
  have hrun : Deciding.run (x.run seen) d =
      Deciding.run y d >>= fun out => Pure.pure ((out.1, seen ++ events out.1), out.2) := by
    rw [h seen, map_eq_pure_bind, Deciding.run_bind]
    exact bind_congr fun out => Deciding.run_pure _ _
  change ((Deciding.run (x.run seen) d >>= fun out => Pure.pure ((out.1.1, out.2), out.1.2)) >>=
    fun out => Pure.pure ((out.1.1, d.followedBy out.1.2), out.2)) =
      _ <$> (Deciding.run y d >>= fun out => Pure.pure (out.1, d.followedBy out.2))
  simp only [hrun, bind_assoc, pure_bind, map_bind, map_pure]

end Reports

theorem AuthProvider.reports (i : Nat) (p : AuthProvider m) (r : Request) :
    Reports ((p.watched i).identify r) (p.identify r) fun answer => [.asked i answer] := fun seen => by
  simp only [watched, see, StateT.run_bind, StateT.run_lift, StateT.run_modify, StateT.run_pure,
    bind_assoc, pure_bind, map_eq_pure_bind]

theorem Handler.reports (handler : Handler m) (input : HandlerInput) :
    Reports (handler.watched input) (handler input) fun _ => [.handled input] := fun seen => by
  simp only [watched, see, StateT.run_bind, StateT.run_lift, StateT.run_modify, pure_bind,
    map_eq_pure_bind]

theorem ErrorHandler.reports (handler : ErrorHandler m) (r : Request) (failure : Failure) :
    Reports (handler.watched r failure) (handler r failure) fun _ => [] := fun seen => by
  simp only [watched, StateT.run_lift, List.append_nil, map_eq_pure_bind]

variable [Deciding m]

theorem AuthProvider.deciding_reports (i : Nat) (p : AuthProvider m) (r : Request) (d : Decisions) :
    Reports (((p.watched i).deciding.identify r).run d) ((p.deciding.identify r).run d)
      fun out => [.asked i out.1] :=
  (p.reports i r).step d

theorem ErrorHandler.deciding_reports (handler : ErrorHandler m) (r : Request) (failure : Failure)
    (d : Decisions) :
    Reports ((handler.watched.deciding r failure).run d) ((handler.deciding r failure).run d)
      fun _ => [] :=
  (handler.reports r failure).step d

theorem authenticate_watches (i : Nat) (providers : List (AuthProvider m)) (r : Request)
    (d : Decisions) :
    Watches ((authenticate ((watchFrom i providers).map AuthProvider.deciding) r).run d)
      ((authenticate (providers.map AuthProvider.deciding) r).run d) := by
  induction providers generalizing i d with
  | nil => exact .pure _
  | cons p rest ih =>
    rw [watchFrom, List.map_cons, List.map_cons, authenticate, authenticate, StateT.run_bind,
      StateT.run_bind]
    refine .bind (p.deciding_reports i r d).watches fun out => ?_
    rcases out with ⟨failure | _ | identity, d₁⟩
    · exact .pure _
    · exact ih (i + 1) d₁
    · exact .pure _

namespace Endpoint

variable (e : Endpoint m) (r : Request) (d : Decisions)

omit [LawfulMonad m] [Deciding m] in
theorem watched_auth : e.watched.contract.auth = e.contract.auth.map (watchFrom 0) := rfl

omit [LawfulMonad m] [Deciding m] in
theorem watched_parse : e.watched.parse r = e.parse r := rfl

theorem identify_watches : Watches ((e.watched.identify r).run d) ((e.identify r).run d) := by
  unfold identify
  rw [watched_auth]
  cases e.contract.auth with
  | none => exact .pure _
  | some providers =>
    rw [Option.map_some]
    dsimp only
    rw [StateT.run_bind, StateT.run_bind]
    exact .bind (authenticate_watches 0 providers r d) fun _ => .pure _

theorem handle_reports (input : HandlerInput) :
    Reports ((e.watched.handle input).run d) ((e.handle input).run d) fun _ => [.handled input] :=
  (Handler.reports e.handler input).step d

theorem run_watches : Watches (e.watched.run r d) (e.run r d) := by
  refine .bind (e.identify_watches r d) fun out => ?_
  rcases out with ⟨failure | identity, d₁⟩
  · exact .pure _
  · simp only [watched_parse]
    rcases (e.parse r).run.run d₁ with ⟨failure | components, d₂⟩
    · exact .pure _
    · refine .bind (e.handle_reports d₂ _).watches fun out => ?_
      rcases out with ⟨failure | output, d₃⟩
      · exact .pure _
      · exact .pure _

theorem offer_watches (failure : Failure) (handlers : List (ErrorHandler m)) :
    Watches ((ErrorHandler.offer r failure
        ((handlers.map ErrorHandler.watched).map ErrorHandler.deciding)).run d)
      ((ErrorHandler.offer r failure (handlers.map ErrorHandler.deciding)).run d) := by
  induction handlers generalizing failure d with
  | nil => exact .pure _
  | cons handler rest ih =>
    rw [List.map_cons, List.map_cons, List.map_cons, ErrorHandler.offer, ErrorHandler.offer,
      StateT.run_bind, StateT.run_bind]
    refine .bind (handler.deciding_reports r failure d).watches fun out => ?_
    rcases out with ⟨failure | response, d₁⟩
    · exact ih d₁ failure
    · exact .pure _

omit [LawfulMonad m] [Deciding m] in
theorem errorHandlers_watched :
    e.watched.errorHandlers = e.errorHandlers.map ErrorHandler.watched := by
  simp only [errorHandlers, watched, Contract.watched]
  cases e.contract.errorHandler <;> cases e.sharedErrorHandler <;> rfl

theorem recover_watches (failure : Failure) :
    Watches (e.watched.recover r d failure) (e.recover r d failure) := by
  rw [recover, e.errorHandlers_watched]
  refine .bind (offer_watches r (e.decideRenderer r d) failure _) fun out => ?_
  rcases out with ⟨failure | response, d₁⟩
  · dsimp only
    cases failure.answer d₁.renderer? with
    | ok response => exact .pure _
    | error _ => exact .pure _
  · exact .pure _

/-- A watched endpoint answers as it does unwatched. -/
theorem serve_watches : Watches (e.watched.serve r d) (e.serve r d) := by
  refine .bind (e.run_watches r d) fun out => ?_
  rcases out with ⟨failure | response, d₁⟩
  · exact e.recover_watches r d₁ failure
  · exact .pure _

end Endpoint

end Accord
