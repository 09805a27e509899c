import Accord.Proofs.Component.Taking
import Accord.Proofs.Service.Watching

namespace Accord

/-- Providers from the `i`-th on that were asked and declined, this many. -/
def declines (i count : Nat) : List Event :=
  (List.range' i count).map fun j => .asked j (.ok none)

theorem declines_succ (i count : Nat) :
    declines i (count + 1) = .asked i (.ok none) :: declines (i + 1) count := rfl

/-- The answers that do not leave it to the next provider, and what comes out. -/
inductive Settles : Except Failure (Option Json) → Except Failure Json → Prop
  | failure {failure : Failure} : Settles (.error failure) (.error failure)
  | identity {identity : Json} : Settles (.ok (some identity)) (.ok identity)

/-- What is seen of asking this many providers from the `i`-th on, and what comes out. -/
inductive Answered (i count : Nat) : List Event → Except Failure Json → Prop
  | exhausted : Answered i count (declines i count) (.error (.notAuthenticated "Not authenticated"))
  | settled {k : Nat} {answer : Except Failure (Option Json)} {result : Except Failure Json} :
      k < count → Settles answer result →
      Answered i count (declines i k ++ [.asked (i + k) answer]) result

/-- What is seen of finding out who sends a request. -/
inductive Identified {m : Type → Type} (auth : Option (List (AuthProvider m))) :
    List Event → Except Failure (Option Json) → Prop
  | nobody : auth = none → Identified auth [] (.ok none)
  | asked {providers : List (AuthProvider m)} {events : List Event} {result : Except Failure Json} :
      auth = some providers → Answered 0 providers.length events result →
      Identified auth events (result.map some)

/-- What is seen of an endpoint that serves a request, by who is found to send it and what is decided
then, and what comes out and is decided. -/
inductive Course {m : Type → Type} (e : Endpoint m) (r : Request) (d : Decisions) :
    Except Failure (Option Json) → List Event → Except Failure Response × Decisions → Prop
  | refused {events : List Event} {failure : Failure} :
      Identified e.contract.auth events (.error failure) →
      Course e r d (.error failure) events (.error failure, d)
  | unparsed {events : List Event} {identity : Option Json} {failure : Failure} {d₁ : Decisions} :
      Identified e.contract.auth events (.ok identity) →
      (e.parse r).run.run d = (.error failure, d₁) →
      Course e r d (.ok identity) events (.error failure, d₁)
  | handled {events : List Event} {identity : Option Json} {components : ParsedComponents}
      {d₁ : Decisions} {out : Except Failure Response × Decisions} :
      Identified e.contract.auth events (.ok identity) →
      (e.parse r).run.run d = (.ok components, d₁) →
      Course e r d (.ok identity) (events ++ [.handled ⟨r, components, identity⟩]) out

theorem Answered.after_decline {i count : Nat} {events : List Event} {result : Except Failure Json}
    (h : Answered (i + 1) count events result) :
    Answered i (count + 1) (.asked i (.ok none) :: events) result := by
  cases h with
  | exhausted => exact declines_succ i count ▸ .exhausted
  | @settled k answer result hk hsettles =>
    have hplace : i + 1 + k = i + (k + 1) := by omega
    rw [hplace]
    exact .settled (Nat.succ_lt_succ hk) hsettles

section Runs

variable {W α β : Type}

theorem run_bind_watched {x : Watched (StateM W) α} {a : α} {seen seen' : List Event} {w w' : W}
    (h : (x.run seen).run w = ((a, seen'), w')) (f : α → Watched (StateM W) β) :
    ((x >>= f).run seen).run w = ((f a).run seen').run w' :=
  congrArg (fun out : (α × List Event) × W => ((f out.1.1).run out.1.2).run out.2) h

theorem Reports.run {x : Watched (StateM W) α} {y : StateM W α} {events : α → List Event}
    (h : Reports x y events) {w w' : W} {a : α} (hrun : y.run w = (a, w')) (seen : List Event) :
    (x.run seen).run w = ((a, seen ++ events a), w') := by
  rw [h seen]
  exact congrArg (fun out : α × W => ((out.1, seen ++ events out.1), out.2)) hrun

variable [Deciding (StateM W)]

theorem authenticate_answered (i : Nat) (providers : List (AuthProvider (StateM W))) (r : Request)
    (d : Decisions) (seen : List Event) (w : W) :
    ∃ events result d' w',
      (((authenticate ((watchFrom i providers).map AuthProvider.deciding) r).run d).run seen).run w =
        (((result, d'), seen ++ events), w') ∧ Answered i providers.length events result := by
  -- Each step adds to what was seen before, so history and place are general.
  induction providers generalizing i d seen w with
  | nil => exact ⟨[], _, d, w, by rw [List.append_nil]; rfl, .exhausted⟩
  | cons p rest ih =>
    rcases hask : ((p.deciding.identify r).run d).run w with ⟨⟨answer, d₁⟩, w₁⟩
    rw [watchFrom, List.map_cons, authenticate, StateT.run_bind,
      run_bind_watched ((p.deciding_reports i r d).run hask seen)]
    rcases answer with failure | _ | identity
    · exact ⟨_, _, d₁, w₁, rfl, .settled (k := 0) (Nat.zero_lt_succ _) .failure⟩
    · obtain ⟨events, result, d', w', hrest, hanswered⟩ :=
        ih (i + 1) d₁ (seen ++ [.asked i (.ok none)]) w₁
      refine ⟨.asked i (.ok none) :: events, result, d', w', ?_, hanswered.after_decline⟩
      simpa using hrest
    · exact ⟨_, _, d₁, w₁, rfl, .settled (k := 0) (Nat.zero_lt_succ _) .identity⟩

namespace Endpoint

variable (e : Endpoint (StateM W)) (r : Request) (d : Decisions)

theorem identify_identified (w : W) :
    ∃ events result d' w',
      (((e.watched.identify r).run d).run []).run w = (((result, d'), events), w') ∧
        Identified e.contract.auth events result := by
  unfold identify
  rw [watched_auth]
  cases e.contract.auth with
  | none => exact ⟨[], _, d, w, rfl, .nobody rfl⟩
  | some providers =>
    obtain ⟨events, result, d', w', hrun, hanswered⟩ := authenticate_answered 0 providers r d [] w
    refine ⟨events, result.map some, d', w', ?_, .asked rfl hanswered⟩
    rw [Option.map_some]
    dsimp only
    rw [StateT.run_bind, run_bind_watched hrun]
    rfl

def afterIdentify (e : Endpoint (StateM W)) (r : Request) (d : Decisions) (w : W) : Decisions :=
  (((e.identify r).run d).run w).1.2

theorem run_course (w : W) :
    ∃ events out w', ((e.watched.run r d).run []).run w = ((out, events), w') ∧
      Course e r (e.afterIdentify r d w) (((e.identify r).run d).run w).1.1 events out := by
  obtain ⟨events, result, d₁, w₁, hidentify, hidentified⟩ := e.identify_identified r d w
  have hwho : (((e.identify r).run d).run w).1 = (result, d₁) := by
    rw [← e.identify_watches r d []]
    exact congrArg (fun out => out.1.1) hidentify
  rw [afterIdentify, hwho, run, run_bind_watched hidentify]
  rcases result with failure | identity
  · exact ⟨events, _, w₁, rfl, .refused hidentified⟩
  · simp only [watched_parse]
    rcases hparse : (e.parse r).run.run d₁ with ⟨failure | components, d₂⟩
    · exact ⟨events, _, w₁, rfl, .unparsed hidentified hparse⟩
    · rcases hhandle : ((e.handle ⟨r, components, identity⟩).run d₂).run w₁ with ⟨⟨output, d₃⟩, w₂⟩
      have hseen := (e.handle_reports d₂ ⟨r, components, identity⟩).run hhandle events
      dsimp only
      rw [run_bind_watched hseen]
      cases output with
      | error failure => exact ⟨_, _, w₂, rfl, .handled hidentified hparse⟩
      | ok output => exact ⟨_, _, w₂, rfl, .handled hidentified hparse⟩

theorem offer_seen (failure : Failure) (handlers : List (ErrorHandler (StateM W)))
    (seen : List Event) (w : W) :
    ∃ result w', ((((ErrorHandler.offer r failure
      ((handlers.map ErrorHandler.watched).map ErrorHandler.deciding)).run d).run seen).run w =
        ((result, seen), w')) := by
  induction handlers generalizing failure d w with
  | nil => exact ⟨_, w, rfl⟩
  | cons handler rest ih =>
    rcases hanswer : ((handler.deciding r failure).run d).run w with ⟨⟨answer, d₁⟩, w₁⟩
    have hseen := (handler.deciding_reports r failure d).run hanswer seen
    rw [List.append_nil] at hseen
    rw [List.map_cons, List.map_cons, ErrorHandler.offer, StateT.run_bind, run_bind_watched hseen]
    cases answer with
    | ok response => exact ⟨_, w₁, rfl⟩
    | error failure => exact ih d₁ failure w₁

theorem recover_seen (failure : Failure) (seen : List Event) (w : W) :
    ∃ response w', ((e.watched.recover r d failure).run seen).run w = ((response, seen), w') := by
  obtain ⟨⟨result, d₁⟩, w₁, hoffer⟩ :=
    offer_seen r (e.decideRenderer r d) failure e.errorHandlers seen w
  rw [recover, e.errorHandlers_watched]
  have hrun : (((ErrorHandler.offer r failure ((e.errorHandlers.map ErrorHandler.watched).map
      ErrorHandler.deciding)).run (e.watched.decideRenderer r d)).run seen).run w =
        (((result, d₁), seen), w₁) := hoffer
  rw [run_bind_watched hrun]
  cases result with
  | ok response => exact ⟨_, w₁, rfl⟩
  | error failure =>
    dsimp only
    cases failure.answer d₁.renderer? with
    | ok response => exact ⟨_, w₁, rfl⟩
    | error _ => exact ⟨_, w₁, rfl⟩

/-- All that is seen of an endpoint that answers a request in a world. -/
def seen (e : Endpoint (StateM W)) (r : Request) (d : Decisions) (w : W) : List Event :=
  (((e.watched.serve r d).run []).run w).1.2

/-- What is seen is a course to what comes out of serving the request. -/
theorem seen_course (w : W) :
    Course e r (e.afterIdentify r d w) (((e.identify r).run d).run w).1.1 (e.seen r d w)
      ((e.run r d).run w).1 := by
  obtain ⟨events, out, w₁, hrun, hcourse⟩ := e.run_course r d w
  have hout : ((e.run r d).run w).1 = out := by
    rw [← e.run_watches r d []]
    exact congrArg (fun result => result.1.1) hrun
  have hseen : e.seen r d w = events := by
    rw [seen, serve, run_bind_watched hrun]
    rcases out with ⟨failure | response, d₁⟩
    · obtain ⟨response, w₂, hrecover⟩ := e.recover_seen r d₁ failure events w₁
      exact congrArg (fun result => result.1.2) hrecover
    · rfl
  rw [hout, hseen]
  exact hcourse

end Endpoint

end Runs

end Accord
