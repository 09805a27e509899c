import Accord.Proofs.Body
import Accord.Proofs.Negotiation.Serving
import Mathlib.Logic.Function.Basic

namespace Accord

/-- What there is to decide for a request. -/
inductive Matter where
  | parser
  | renderer
  | form
  deriving DecidableEq, Repr

def Matter.Value : Matter → Type
  | parser => BodyParser
  | renderer => Renderer
  | form => Form

namespace Decisions

def slot (d : Decisions) : (k : Matter) → Slot k.Value
  | .parser => d.parser?
  | .renderer => d.renderer?
  | .form => d.form?

def holdForm (f : Form) (d : Decisions) : Form × Decisions :=
  let (held, slot) := Slot.hold f d.form?
  (held, { d with form? := slot })

def hold (d : Decisions) : (k : Matter) → k.Value → k.Value × Decisions
  | .parser, p => d.holdParser p
  | .renderer, renderer => d.holdRenderer renderer
  | .form, f => d.holdForm f

variable {k l : Matter} {a held : k.Value} {d : Decisions}

theorem hold_of_held (h : d.slot k = some held) : d.hold k a = (held, d) := by
  obtain ⟨parser?, renderer?, form?⟩ := d
  cases k <;> cases h <;> rfl

theorem slot_hold_of_empty (h : d.slot k = none) :
    (d.hold k a).1 = a ∧ (d.hold k a).2.slot k = some a := by
  obtain ⟨parser?, renderer?, form?⟩ := d
  cases k <;> cases h <;> exact ⟨rfl, rfl⟩

theorem slot_hold_of_ne (h : l ≠ k) : (d.hold k a).2.slot l = d.slot l := by
  cases k <;> cases l <;> first | rfl | exact absurd rfl h

end Decisions

/-- A call that decides for a request. A renderer is forced without looking for another. -/
inductive Call where
  | parser (parsers : BodyParsers)
  | renderer (renderers : Renderers)
  | forceRenderer (renderer : Renderer)
  | form (rules : FormRules)

namespace Call

def matter : Call → Matter
  | parser _ => .parser
  | renderer _ => .renderer
  | forceRenderer _ => .renderer
  | form _ => .form

def decide (r : Request) : (c : Call) → Except Failure c.matter.Value
  | .parser parsers => parsers.choose r
  | .renderer renderers => renderers.choose r
  | .forceRenderer chosen => .ok chosen
  | .form rules => rules.readForm r

/-- The call as a step of serving the request, with nobody in between. -/
def serving (r : Request) : (c : Call) → Serving c.matter.Value
  | .parser parsers => Serving.parser parsers r
  | .renderer renderers => Serving.renderer renderers r
  | .forceRenderer chosen => Serving.forceRenderer chosen
  | .form rules => Serving.withForm (rules.form r)

/-- What a call is about to do: to look what is held, to decide as nothing is, to store what it has
decided; or its answer. -/
inductive Stage (α : Type) where
  | looking
  | deciding
  | storing (a : α)
  | ended (answer : Except Failure α)

def start : (c : Call) → Stage c.matter.Value
  | .forceRenderer chosen => .storing chosen
  | .parser _ => .looking
  | .renderer _ => .looking
  | .form _ => .looking

def step (r : Request) (c : Call) (d : Decisions) :
    Stage c.matter.Value → Stage c.matter.Value × Decisions
  | .looking =>
    match d.slot c.matter with
    | some held => (.ended (.ok held), d)
    | none => (.deciding, d)
  | .deciding =>
    match c.decide r with
    | .ok a => (.storing a, d)
    | .error failure => (.ended (.error failure), d)
  | .storing a =>
    let (held, d) := d.hold c.matter a
    (.ended (.ok held), d)
  | .ended answer => (.ended answer, d)

theorem start_ne_ended (c : Call) (answer : Except Failure c.matter.Value) :
    c.start ≠ .ended answer := by
  cases c <;> exact nofun

def Stage.stepsLeft {α : Type} : Stage α → Nat
  | looking => 3
  | deciding => 2
  | storing _ => 1
  | ended _ => 0

section Step

variable {r : Request} {c : Call} {d : Decisions} {stage : Stage c.matter.Value}
  {a held : c.matter.Value} {failure : Failure} {answer : Except Failure c.matter.Value}

theorem step_looking_of_held (h : d.slot c.matter = some held) :
    c.step r d .looking = (.ended (.ok held), d) := by
  simp only [step, h]

theorem step_looking_of_empty (h : d.slot c.matter = none) :
    c.step r d .looking = (.deciding, d) := by
  simp only [step, h]

theorem step_deciding_of_ok (h : c.decide r = .ok a) : c.step r d .deciding = (.storing a, d) := by
  simp only [step, h]

theorem step_deciding_of_error (h : c.decide r = .error failure) :
    c.step r d .deciding = (.ended (.error failure), d) := by
  simp only [step, h]

theorem step_storing_of_held (h : d.slot c.matter = some held) :
    c.step r d (.storing a) = (.ended (.ok held), d) := by
  simp only [step, Decisions.hold_of_held h]

theorem step_storing_of_empty (h : d.slot c.matter = none) :
    c.step r d (.storing a) = (.ended (.ok a), (d.hold c.matter a).2) := by
  simp only [step, (Decisions.slot_hold_of_empty h).1]

@[simp] theorem step_ended : c.step r d (.ended answer) = (.ended answer, d) := rfl

/-- A step leaves what is decided as it is, or stores something in the empty place of its matter. -/
theorem step_writes (r : Request) (c : Call) (d : Decisions) (stage : Stage c.matter.Value) :
    (c.step r d stage).2 = d ∨ ∃ a, d.slot c.matter = none ∧
      c.step r d stage = (.ended (.ok a), (d.hold c.matter a).2) := by
  cases stage with
  | looking =>
    cases hslot : d.slot c.matter with
    | some held => exact .inl (by rw [step_looking_of_held hslot])
    | none => exact .inl (by rw [step_looking_of_empty hslot])
  | deciding =>
    cases hdecide : c.decide r with
    | ok a => exact .inl (by rw [step_deciding_of_ok hdecide])
    | error failure => exact .inl (by rw [step_deciding_of_error hdecide])
  | storing a =>
    cases hslot : d.slot c.matter with
    | some held => exact .inl (by rw [step_storing_of_held hslot])
    | none => exact .inr ⟨a, rfl, step_storing_of_empty hslot⟩
  | ended answer => exact .inl rfl

theorem answer_of_step (unended : ∀ earlier, stage ≠ .ended earlier)
    (h : (c.step r d stage).1 = .ended answer) :
    (∃ a, answer = .ok a ∧ (c.step r d stage).2.slot c.matter = some a) ∨
      ∃ failure, answer = .error failure ∧ c.decide r = .error failure := by
  cases stage with
  | looking =>
    cases hslot : d.slot c.matter with
    | some held =>
      rw [step_looking_of_held hslot] at h ⊢
      cases h
      exact .inl ⟨held, rfl, hslot⟩
    | none =>
      rw [step_looking_of_empty hslot] at h
      cases h
  | deciding =>
    cases hdecide : c.decide r with
    | ok a =>
      rw [step_deciding_of_ok hdecide] at h
      cases h
    | error failure =>
      rw [step_deciding_of_error hdecide] at h
      cases h
      exact .inr ⟨failure, rfl, rfl⟩
  | storing a =>
    cases hslot : d.slot c.matter with
    | some held =>
      rw [step_storing_of_held hslot] at h ⊢
      cases h
      exact .inl ⟨held, rfl, hslot⟩
    | none =>
      rw [step_storing_of_empty hslot] at h ⊢
      cases h
      exact .inl ⟨a, rfl, (Decisions.slot_hold_of_empty hslot).2⟩
  | ended earlier => exact absurd rfl (unended earlier)

theorem Stage.stepsLeft_le {α : Type} (stage : Stage α) : stage.stepsLeft ≤ 3 := by
  cases stage <;> simp [stepsLeft]

theorem stepsLeft_step (r : Request) (c : Call) (d : Decisions) (stage : Stage c.matter.Value) :
    (c.step r d stage).1.stepsLeft ≤ stage.stepsLeft - 1 := by
  cases stage with
  | looking =>
    simp only [step]
    split <;> simp [Stage.stepsLeft]
  | deciding =>
    simp only [step]
    split <;> simp [Stage.stepsLeft]
  | storing => exact Nat.le_refl 0
  | ended => exact Nat.le_refl 0

theorem run_serving (hstart : c.start = .looking) :
    (c.serving r).run.run d =
      match d.slot c.matter with
      | some held => (.ok held, d)
      | none =>
        match c.decide r with
        | .ok a => (.ok a, (d.hold c.matter a).2)
        | .error failure => (.error failure, d) := by
  obtain ⟨parser?, renderer?, form?⟩ := d
  cases c with
  | parser parsers =>
    refine (Serving.run_parserStep parsers r _).trans ?_
    cases parser? with
    | some held => rfl
    | none =>
      simp only [Decisions.slot, matter, decide]
      cases parsers.choose r <;> rfl
  | renderer renderers =>
    refine (Serving.run_rendererStep renderers r _).trans ?_
    cases renderer? with
    | some held => rfl
    | none =>
      simp only [Decisions.slot, matter, decide]
      cases renderers.choose r <;> rfl
  | forceRenderer chosen => cases hstart
  | form rules =>
    refine (Serving.run_withForm (rules.form r) _).trans ?_
    rw [FormRules.run_form]
    cases form? with
    | some held => rfl
    | none =>
      simp only [Decisions.slot, matter, decide, FormRules.found]
      cases rules.readForm r <;> rfl

end Step

end Call

structure Scene {ι : Type} (calls : ι → Call) where
  decisions : Decisions
  stages : (i : ι) → Call.Stage (calls i).matter.Value

namespace Scene

variable {ι : Type} [DecidableEq ι] {calls : ι → Call} {r : Request} {s : Scene calls} {i j : ι}
  {k : Matter}

def opening (calls : ι → Call) (d : Decisions) : Scene calls := ⟨d, fun i => (calls i).start⟩

def step (r : Request) (s : Scene calls) (i : ι) : Scene calls :=
  let (stage, d) := (calls i).step r s.decisions (s.stages i)
  ⟨d, Function.update s.stages i stage⟩

def run (r : Request) (s : Scene calls) (schedule : List ι) : Scene calls := schedule.foldl (step r) s

def Writes (r : Request) (s : Scene calls) (i : ι) (k : Matter) : Prop :=
  (s.step r i).decisions.slot k ≠ s.decisions.slot k

theorem run_append (r : Request) (s : Scene calls) (before after : List ι) :
    s.run r (before ++ after) = (s.run r before).run r after := List.foldl_append

theorem run_cons (r : Request) (s : Scene calls) (i : ι) (after : List ι) :
    s.run r (i :: after) = (s.step r i).run r after := rfl

theorem stages_step_self (r : Request) (s : Scene calls) (i : ι) :
    (s.step r i).stages i = ((calls i).step r s.decisions (s.stages i)).1 := Function.update_self ..

theorem stages_step_of_ne (h : j ≠ i) : (s.step r i).stages j = s.stages j := Function.update_of_ne h ..

/-- A step that writes finds its place empty, stores what its call has decided, and ends the call. -/
theorem of_writes (h : s.Writes r i k) :
    k = (calls i).matter ∧ s.decisions.slot k = none ∧
      (∃ a, (s.step r i).decisions.slot k = some a) ∧
      ∃ a, (s.step r i).stages i = .ended (.ok a) := by
  rcases (calls i).step_writes r s.decisions (s.stages i) with hsame | ⟨a, hslot, hstep⟩
  · exact absurd (congrArg (Decisions.slot · k) hsame) h
  · have hdecisions : (s.step r i).decisions = (s.decisions.hold (calls i).matter a).2 :=
      congrArg Prod.snd hstep
    have hk : k = (calls i).matter := by
      by_contra hne
      refine h ?_
      rw [hdecisions]
      exact Decisions.slot_hold_of_ne hne
    subst hk
    refine ⟨rfl, hslot, ⟨a, ?_⟩, a, ?_⟩
    · rw [hdecisions]
      exact (Decisions.slot_hold_of_empty hslot).2
    · rw [stages_step_self, hstep]

theorem slot_step_of_held {a : k.Value} (h : s.decisions.slot k = some a) (i : ι) :
    (s.step r i).decisions.slot k = some a := by
  by_cases hwrites : s.Writes r i k
  · rw [(of_writes hwrites).2.1] at h
    cases h
  · exact (not_not.mp hwrites).trans h

theorem stages_step_of_ended {answer : Except Failure (calls j).matter.Value}
    (h : s.stages j = .ended answer) (i : ι) : (s.step r i).stages j = .ended answer := by
  by_cases hji : j = i
  · subst hji
    rw [stages_step_self, h]
    rfl
  · rw [stages_step_of_ne hji, h]

/-- What a call has answered is held, or is its failure to decide. -/
def AnswersHeld (r : Request) (s : Scene calls) : Prop :=
  ∀ i answer, s.stages i = .ended answer →
    (∃ a, answer = .ok a ∧ s.decisions.slot (calls i).matter = some a) ∨
      ∃ failure, answer = .error failure ∧ (calls i).decide r = .error failure

omit [DecidableEq ι] in
theorem opening_answersHeld (r : Request) (calls : ι → Call) (d : Decisions) :
    (opening calls d).AnswersHeld r :=
  fun i answer h => absurd h ((calls i).start_ne_ended answer)

theorem AnswersHeld.step (held : s.AnswersHeld r) (i : ι) : (s.step r i).AnswersHeld r := by
  intro j answer h
  by_cases hended : ∃ earlier, s.stages j = .ended earlier
  · obtain ⟨earlier, hearlier⟩ := hended
    obtain rfl : earlier = answer := by
      injection (stages_step_of_ended hearlier i).symm.trans h
    refine (held j earlier hearlier).imp_left ?_
    rintro ⟨a, hanswer, hslot⟩
    exact ⟨a, hanswer, slot_step_of_held hslot i⟩
  · have unended : ∀ earlier, s.stages j ≠ .ended earlier := fun earlier he => hended ⟨earlier, he⟩
    by_cases hji : j = i
    · subst hji
      rw [stages_step_self] at h
      exact Call.answer_of_step unended h
    · rw [stages_step_of_ne hji] at h
      exact absurd h (unended answer)

theorem slot_run_of_held {a : k.Value} (h : s.decisions.slot k = some a) (schedule : List ι) :
    (s.run r schedule).decisions.slot k = some a := by
  induction schedule generalizing s with
  | nil => exact h
  | cons i rest ih => exact ih (slot_step_of_held h i)

theorem stages_run_of_ended {answer : Except Failure (calls j).matter.Value}
    (h : s.stages j = .ended answer) (schedule : List ι) :
    (s.run r schedule).stages j = .ended answer := by
  induction schedule generalizing s with
  | nil => exact h
  | cons i rest ih => exact ih (stages_step_of_ended h i)

theorem AnswersHeld.run (held : s.AnswersHeld r) (schedule : List ι) :
    (s.run r schedule).AnswersHeld r := by
  induction schedule generalizing s with
  | nil => exact held
  | cons i rest ih => exact ih (held.step i)

theorem stepsLeft_run (r : Request) (s : Scene calls) (j : ι) (schedule : List ι) :
    ((s.run r schedule).stages j).stepsLeft ≤ (s.stages j).stepsLeft - schedule.count j := by
  induction schedule generalizing s with
  | nil => exact Nat.le_refl _
  | cons i rest ih =>
    have hrest := ih (s.step r i)
    rw [run_cons]
    by_cases hji : j = i
    · subst hji
      have hstep := (calls j).stepsLeft_step r s.decisions (s.stages j)
      rw [stages_step_self] at hrest
      rw [List.count_cons_self]
      omega
    · rw [stages_step_of_ne hji] at hrest
      rw [List.count_cons_of_ne (Ne.symm hji)]
      exact hrest

/-- Each matter is decided once, whatever calls there are and in whatever order they take their steps. -/
structure DecidedOnce (r : Request) (calls : ι → Call) (d : Decisions) (schedule : List ι) : Prop where
  /-- Of two steps at most one writes in a place. -/
  writtenOnce : ∀ before i between j after, schedule = before ++ i :: between ++ j :: after →
    ∀ k, ((opening calls d).run r before).Writes r i k →
      ¬((opening calls d).run r (before ++ i :: between)).Writes r j k
  /-- What is held once is held to the end. -/
  unchanged : ∀ before after, schedule = before ++ after →
    ∀ k a, ((opening calls d).run r before).decisions.slot k = some a →
      ((opening calls d).run r schedule).decisions.slot k = some a
  /-- A call that succeeds gives what is held in the end. -/
  agreed : ∀ i a, ((opening calls d).run r schedule).stages i = .ended (.ok a) →
    ((opening calls d).run r schedule).decisions.slot (calls i).matter = some a
  /-- A call that fails has written nothing, and fails because it can decide nothing. -/
  failed : ∀ i failure, ((opening calls d).run r schedule).stages i = .ended (.error failure) →
    (calls i).decide r = .error failure ∧ ∀ before after, schedule = before ++ i :: after →
      ∀ k, ¬((opening calls d).run r before).Writes r i k
  /-- A call writes in no place but that of its own matter. -/
  apart : ∀ before i after, schedule = before ++ i :: after →
    ∀ k, ((opening calls d).run r before).Writes r i k → k = (calls i).matter
  /-- A call answers when it has taken three steps. -/
  answered : ∀ i, 3 ≤ schedule.count i →
    ∃ answer, ((opening calls d).run r schedule).stages i = .ended answer

theorem decided_once (r : Request) (calls : ι → Call) (d : Decisions) (schedule : List ι) :
    DecidedOnce r calls d schedule where
  writtenOnce before i between j after _ k hwrites := by
    obtain ⟨-, -, ⟨a, hheld⟩, -⟩ := of_writes hwrites
    intro hagain
    have hempty := (of_writes hagain).2.1
    rw [run_append, run_cons, slot_run_of_held hheld] at hempty
    cases hempty
  unchanged before after hschedule k a hheld := by
    rw [hschedule, run_append]
    exact slot_run_of_held hheld after
  agreed i a hanswer := by
    rcases (opening_answersHeld r calls d).run schedule i _ hanswer with ⟨b, he, hslot⟩ | ⟨_, he, -⟩
    · cases he
      exact hslot
    · cases he
  failed i failure hanswer := by
    have hdecide : (calls i).decide r = .error failure := by
      rcases (opening_answersHeld r calls d).run schedule i _ hanswer with ⟨_, he, -⟩ | ⟨_, he, h⟩
      · cases he
      · cases he
        exact h
    refine ⟨hdecide, ?_⟩
    intro before after hschedule k hwrites
    obtain ⟨-, -, -, a, hended⟩ := of_writes hwrites
    rw [hschedule, run_append, run_cons, stages_run_of_ended hended] at hanswer
    cases hanswer
  apart before i after _ k hwrites := (of_writes hwrites).1
  answered i hcount := by
    have hleft := stepsLeft_run r (opening calls d) i schedule
    have hstart := ((opening calls d).stages i).stepsLeft_le
    have hended : (((opening calls d).run r schedule).stages i).stepsLeft = 0 := by omega
    cases hstage : ((opening calls d).run r schedule).stages i with
    | ended answer => exact ⟨answer, rfl⟩
    | looking | deciding | storing => rw [hstage] at hended; cases hended

section Alone

variable {c : Call}

def alone (d : Decisions) (stage : Call.Stage c.matter.Value) : Scene fun _ : Unit => c :=
  ⟨d, fun _ => stage⟩

theorem step_alone (d : Decisions) (stage : Call.Stage c.matter.Value) :
    (alone d stage).step r () = alone (c.step r d stage).2 (c.step r d stage).1 := by
  unfold step alone
  dsimp only
  rw [Function.update_eq_const_of_subsingleton]
  rfl

theorem run_alone_of_held {held : c.matter.Value} {d : Decisions} (h : d.slot c.matter = some held)
    (hstart : c.start = .looking) :
    (alone d c.start).run r [(), (), ()] = alone d (.ended (.ok held)) := by
  simp only [run, List.foldl_cons, List.foldl_nil, step_alone, hstart, Call.step_looking_of_held h,
    Call.step_ended]

theorem run_alone_of_empty {d : Decisions} (h : d.slot c.matter = none)
    (hstart : c.start = .looking) :
    (alone d c.start).run r [(), (), ()] =
      match c.decide r with
      | .ok a => alone (d.hold c.matter a).2 (.ended (.ok a))
      | .error failure => alone d (.ended (.error failure)) := by
  cases hdecide : c.decide r with
  | ok a =>
    simp only [run, List.foldl_cons, List.foldl_nil, step_alone, hstart,
      Call.step_looking_of_empty h, Call.step_deciding_of_ok hdecide, Call.step_storing_of_empty h]
  | error failure =>
    simp only [run, List.foldl_cons, List.foldl_nil, step_alone, hstart,
      Call.step_looking_of_empty h, Call.step_deciding_of_error hdecide, Call.step_ended]

theorem run_alone (r : Request) (c : Call) (d : Decisions) :
    (alone d c.start).run r [(), (), ()] =
      alone ((c.serving r).run.run d).2 (.ended ((c.serving r).run.run d).1) := by
  by_cases hstart : c.start = .looking
  · rw [Call.run_serving hstart]
    cases hslot : d.slot c.matter with
    | some held => rw [run_alone_of_held hslot hstart]
    | none =>
      rw [run_alone_of_empty hslot hstart]
      cases c.decide r <;> rfl
  · cases c with
    | forceRenderer chosen => rfl
    | parser | renderer | form => exact absurd rfl hstart

end Alone

end Scene

end Accord
