import Accord.Proofs.Contract.ErrorModel
import Accord.Proofs.Contract.Implied
import Accord.Proofs.Contract.WellFormed
import Accord.Proofs.Service.Unraised

namespace Accord

inductive Failure.OfReading : Failure → Prop
  | unreadable (message : String) : OfReading (.unreadable message)
  | unsupported (message : String) : OfReading (.unsupported message)

/-- A parser that fails for nothing but what it cannot read. -/
structure BodyParser.FailsReading (p : BodyParser) : Prop where
  body {body : Bytes} {r : Request} {s : Schema} {slot : Slot Form} {failure : Failure} :
    p.read body r s slot = .error failure → failure.OfReading
  files {readFiles : Request → Schema → FormState Json} {r : Request} {s : Schema}
    {slot : Slot Form} {failure : Failure} :
    p.readFiles? = some readFiles → readFiles r s slot = .error failure → failure.OfReading

theorem BodyParser.BuiltIn.failsReading {p : BodyParser} (h : p.BuiltIn) : p.FailsReading where
  body hread := by
    obtain ⟨message, rfl | rfl, -⟩ := h.error_of_read hread
    · exact .unreadable message
    · exact .unsupported message
  files hreads hread := by
    obtain ⟨message, rfl, -⟩ := h.error_of_readFiles hreads hread
    exact .unsupported message

theorem BodyParser.FailsReading.of_unread {p : BodyParser} {r : Request} {s : Schema}
    {form : Slot Form} {component : Component} {failure : Failure} (h : p.FailsReading)
    (hunread : p.Unread r s form component failure) : failure.OfReading := by
  cases hunread with
  | body hread =>
    cases h.body hread with
    | unreadable message => exact .unsupported message
    | unsupported message => exact .unsupported message
  | files hreads hread => exact h.files hreads hread

/-- The parser that is held, if one is, fails for nothing but what it cannot read. -/
def Decisions.HoldsReader (d : Decisions) : Prop := ∀ p, d.parser? = some p → p.FailsReading

theorem BodyParsers.mem_values_of_choose {parsers : BodyParsers} {r : Request} {p : BodyParser}
    (h : parsers.choose r = .ok p) : p ∈ parsers.values := by
  cases htype : r.contentType? with
  | none =>
    obtain ⟨⟨key, q⟩, hfirst, rfl⟩ := Option.map_eq_some_iff.mp ((choose_of_untyped htype).mp h)
    exact List.mem_map_of_mem (List.mem_of_head? hfirst)
  | some essence =>
    obtain ⟨before, key, after, rfl, -⟩ := forType?_eq_some_iff.mp ((choose_of_typed htype).mp h)
    exact List.mem_map.mpr ⟨(key, p), List.mem_append_right before List.mem_cons_self, rfl⟩

namespace Serving

variable {parsers : BodyParsers} (readers : ∀ p ∈ parsers.values, p.FailsReading) {r : Request}
  {d d₁ : Decisions}

include readers

theorem failsReading_of_parserStep {p : BodyParser} (hd : d.HoldsReader)
    (h : (parser parsers r).run.run d = (.ok p, d₁)) : p.FailsReading := by
  rw [run_parserStep] at h
  split at h
  · next hheld =>
    cases h
    exact hd _ hheld
  · split at h
    · next hchosen =>
      cases h
      exact readers _ (BodyParsers.mem_values_of_choose hchosen)
    · cases h

theorem keeps_holdsReader_parserStep (r : Request) :
    Keeps Decisions.HoldsReader (parser parsers r) := by
  intro d hd
  rw [run_parserStep]
  split
  · exact hd
  · split
    · next hchosen =>
      intro p hp
      cases hp
      exact readers _ (BodyParsers.mem_values_of_choose hchosen)
    · exact hd

end Serving

section Taking

variable {parsers : BodyParsers} (readers : ∀ p ∈ parsers.values, p.FailsReading) {r : Request}
  {d d₁ : Decisions}

include readers

theorem Taken.holdsReader {taken : List (ComponentSpec × Json)} (h : Taken parsers r d taken d₁)
    (builtIn : ∀ e ∈ taken, e.1.component ∈ Component.all) (hd : d.HoldsReader) : d₁.HoldsReader := by
  induction h with
  | nil => exact hd
  | @cons spec _ _ d _ _ htake _ ih =>
    obtain ⟨hfirst, hrest⟩ := List.forall_mem_cons.mp builtIn
    have hkept : (spec.take parsers r d).2.HoldsReader := Component.keeps_of_mem_all hfirst
      (Serving.keeps_holdsReader_parserStep readers r) (fun _ _ h => h) spec.model d hd
    rw [htake] at hkept
    exact ih hrest hkept

theorem ComponentSpec.ofReading_of_take {spec : ComponentSpec} {failure : Failure}
    (nonempty : parsers ≠ []) (builtIn : spec.component ∈ Component.all) (hd : d.HoldsReader)
    (h : spec.take parsers r d = (.error failure, d₁)) : failure.OfReading := by
  cases untaken_of_take builtIn h with
  | unchosen hchoose =>
    obtain ⟨essence, -, rfl⟩ := BodyParsers.error_of_choose nonempty hchoose
    exact .unsupported _
  | unread hstep hunread =>
    exact (Serving.failsReading_of_parserStep readers hd hstep).of_unread hunread
  | other => exact .unsupported _

end Taking

/-- Some status is declared for the failure, and its envelope lists details. -/
structure Contract.Announces {m : Type → Type} (c : Contract m) (failure : Failure) : Prop where
  status : c.responses.has failure.status = true
  envelope : failure.envelope = Failure.listing failure.details

theorem ResponseCheck.run_acceptRaw_of_unassociated {m : Type → Type} {c : ResponseCheck m}
    (h : c.contract.modification = none) (v : Json) (d : Decisions) :
    (c.acceptRaw v).run.run d = (.error (.internal ("Endpoint '" ++ c.contract.method ++
      "' returned raw data without associated modification")), d) := by
  unfold acceptRaw
  rw [h]
  rfl

namespace Endpoint

variable {W : Type} {e : Endpoint (StateM W)} {r : Request} {w w₁ : W}
  {start d d₁ d₂ : Decisions}  {failure : Failure}

section Raising

variable [Deciding (StateM W)]

/-- The failures that an endpoint raises by itself, by what has come about in the run. -/
inductive Raised (e : Endpoint (StateM W)) (r : Request) (start : Decisions) (w : W) : Failure → Prop
  | unidentified {d : Decisions} {w₁ : W} {failure : Failure} :
      ((e.identify r).run start).run w = ((.error failure, d), w₁) →
      (∀ i answer, .asked i answer ∈ e.seen r start w → answer = .ok none) → Raised e r start w failure
  | unparsed {identity : Option Json} {w₁ : W} {d d₁ : Decisions} {failure : Failure} :
      ((e.identify r).run start).run w = ((.ok identity, d), w₁) →
      (e.parse r).run.run d = (.error failure, d₁) →
      Raised e r start w failure
  | unacceptable {output : HandlerOutput} {d d₁ : Decisions} {failure : Failure} :
      Handles e r start w (.ok output) d →
      (Serving.renderer e.contract.renderers r).run.run d = (.error failure, d₁) →
      Raised e r start w failure
  | refused {response : Response} {renderer : Renderer} {d d₁ d₂ : Decisions} {failure : Failure} :
      Handles e r start w (.ok (.response response)) d →
      (Serving.renderer e.contract.renderers r).run.run d = (.ok renderer, d₁) →
      (e.check.accept r response).run.run d₁ = (.error failure, d₂) → Raised e r start w failure
  | rawRefused {v : Json} {renderer : Renderer} {d d₁ d₂ : Decisions} {failure : Failure} :
      e.contract.modification ≠ none → Handles e r start w (.ok (.raw v)) d →
      (Serving.renderer e.contract.renderers r).run.run d = (.ok renderer, d₁) →
      (e.check.acceptRaw v).run.run d₁ = (.error failure, d₂) → Raised e r start w failure

theorem Raised.run_fails (h : Raised e r start w failure) :
    ∃ decided w₁, (e.run r start).run w = ((.error failure, decided), w₁) := by
  cases h with
  | unidentified hidentify _ => exact ⟨_, _, run_of_unidentified hidentify⟩
  | unparsed hidentify hparse => exact ⟨_, _, run_of_unparsed hidentify hparse⟩
  | @unacceptable output d d₁ _ hhandles hchosen =>
    obtain ⟨hidentify, hparse, hhandle⟩ := hhandles
    have hrespond : (e.respond r output).run.run d = (.error failure, d₁) :=
      Serving.run_bind_of_error hchosen _
    exact ⟨_, _, (run_of_handled hidentify hparse hhandle).trans (congrArg (·, _) hrespond)⟩
  | @refused response _ d _ d₂ _ hhandles hchosen haccept =>
    obtain ⟨hidentify, hparse, hhandle⟩ := hhandles
    have hrespond : (e.respond r (.response response)).run.run d = (.error failure, d₂) :=
      (Serving.run_bind_of_ok hchosen _).trans haccept
    exact ⟨_, _, (run_of_handled hidentify hparse hhandle).trans (congrArg (·, _) hrespond)⟩
  | @rawRefused v _ d _ d₂ _ _ hhandles hchosen haccept =>
    obtain ⟨hidentify, hparse, hhandle⟩ := hhandles
    have hrespond : (e.respond r (.raw v)).run.run d = (.error failure, d₂) :=
      (Serving.run_bind_of_ok hchosen _).trans (Serving.run_bind_of_error haccept _)
    exact ⟨_, _, (run_of_handled hidentify hparse hhandle).trans (congrArg (·, _) hrespond)⟩

theorem declined_or_asked (h : ((e.identify r).run start).run w = ((.error failure, d), w₁)) :
    ((∀ i answer, .asked i answer ∈ e.seen r start w → answer = .ok none) ∧
      failure = .notAuthenticated "Not authenticated" ∧ ∃ providers, e.contract.auth = some providers) ∨
    ∃ i, .asked i (.error failure) ∈ e.seen r start w := by
  obtain ⟨asks, hasks, hevents⟩ := (e.seen_course r start w).identified
  rw [h] at hasks
  generalize hwho : (Except.error failure : Except Failure (Option Json)) = who at hasks
  cases hasks with
  | nobody _ => cases hwho
  | asked hauth hanswered =>
    cases hanswered with
    | exhausted =>
      cases hwho
      refine .inl ⟨fun i answer hi => ?_, rfl, _, hauth⟩
      exact (asked_mem_declines.mp ((Course.asked_mem_iff hevents).mp hi)).2.2
    | @settled k _ _ _ hsettles =>
      cases hsettles with
      | identity => cases hwho
      | failure =>
        cases hwho
        have hlast : Event.asked (0 + k) (.error failure) ∈
            declines 0 k ++ [Event.asked (0 + k) (.error failure)] :=
          List.mem_append_right _ (List.mem_singleton.mpr rfl)
        exact .inr ⟨0 + k, (Course.asked_mem_iff hevents).mpr hlast⟩

/-- Every failure of a run is raised by the endpoint itself, or given by a part from outside, or tells
that the answer could not be put together. -/
theorem raised_of_run (h : (e.run r start).run w = ((.error failure, d), w₁)) :
    Raised e r start w failure ∨ FromOutside e r start w failure ∨ ∃ message, failure = .internal message := by
  rcases hidentify : ((e.identify r).run start).run w with ⟨⟨refusal | identity, d⟩, w₂⟩
  · rw [run_of_unidentified hidentify] at h
    cases h
    rcases declined_or_asked hidentify with ⟨declined, -⟩ | ⟨i, hi⟩
    · exact .inl (.unidentified hidentify declined)
    · exact .inr (.inl (.provider hi))
  rcases hparse : (e.parse r).run.run d with ⟨refusal | components, d₁⟩
  · rw [run_of_unparsed hidentify hparse] at h
    cases h
    exact .inl (.unparsed hidentify hparse)
  rcases hhandle : ((e.handle ⟨r, components, identity⟩).run d₁).run w₂ with
    ⟨⟨refusal | output, d₂⟩, w₃⟩
  · rw [run_of_unhandled hidentify hparse hhandle] at h
    cases h
    exact .inr (.inl (.handler (.intro hidentify hparse hhandle)))
  rw [run_of_handled hidentify hparse hhandle] at h
  have hhandles : Handles e r start w (.ok output) d₂ := .intro hidentify hparse hhandle
  rcases Serving.error_of_run_bind (Prod.mk.inj h).1 with hrefused | ⟨renderer, d₂, hchosen, h⟩
  · exact .inl (.unacceptable hhandles hrefused)
  cases output with
  | response response => exact .inl (.refused hhandles hchosen h)
  | raw v =>
    rcases Serving.error_of_run_bind h with hrefused | ⟨answer, d₃, haccept, h⟩
    · by_cases hmodification : e.contract.modification = none
      · cases (ResponseCheck.run_acceptRaw_of_unassociated hmodification v d₂).symm.trans hrefused
        exact .inr (.inr ⟨_, rfl⟩)
      · exact .inl (.rawRefused hmodification hhandles hchosen hrefused)
    · rw [Serving.run_liftM] at h
      have hresponse := (Prod.mk.inj h).1
      rcases RawAnswer.error_of_toResponse hresponse with hrender | rfl | rfl
      · exact .inr (.inl (.renderer hhandles hchosen haccept hresponse hrender))
      · exact .inr (.inr ⟨_, rfl⟩)
      · exact .inr (.inr ⟨_, rfl⟩)

end Raising

section Announcing

variable {endpoint methodName : String} {payload : Payload (StateM W)}
  {defaults : EndpointDefaults (StateM W)} {components : List ComponentSpec}
  (built : Contract.Built endpoint payload defaults components methodName e.contract)

include built

theorem has_badRequest (builtIn : ∀ spec ∈ e.contract.components, spec.component ∈ Component.all)
    (hsome : e.contract.components ≠ []) : e.contract.responses.has .badRequest = true := by
  obtain ⟨spec, hspec⟩ := List.exists_mem_of_ne_nil _ hsome
  obtain ⟨description, hfailure⟩ := Contract.badRequest_mem_failures (builtIn spec hspec)
  exact built.has_of_mem_failures hspec hfailure

theorem announces_of_parse (equipped : e.Equipped) (model : e.model.specs = e.contract.components)
    (builtIn : ∀ spec ∈ e.contract.components, spec.component ∈ Component.all)
    (readers : ∀ p ∈ e.contract.parsers.values, p.FailsReading) (holding : d.HoldsReader)
    (h : (e.parse r).run.run d = (.error failure, d₁)) : e.contract.Announces failure := by
  have hsome : e.contract.components ≠ [] := by
    intro hnil
    rw [parse, RequestModel.parse, model, hnil] at h
    cases h
  have hdeclared := has_badRequest built builtIn hsome
  rcases RequestModel.error_of_parse h with ⟨taken, spec, after, d₂, hspecs, htaken, hfails⟩ |
    ⟨members, hcheck⟩
  · rw [← model, hspecs] at builtIn
    obtain ⟨hbefore, hfrom⟩ := List.forall_mem_append.mp builtIn
    have hheld : d₂.HoldsReader := htaken.holdsReader readers
      (fun entry hentry => hbefore entry.1 (List.mem_map_of_mem hentry)) holding
    cases ComponentSpec.ofReading_of_take readers equipped.parsers
      (hfrom spec List.mem_cons_self) hheld hfails with
    | unreadable message => exact ⟨hdeclared, rfl⟩
    | unsupported message => exact ⟨hdeclared, rfl⟩
  · obtain ⟨details, rfl⟩ := equipped.checked r members failure hcheck
    exact ⟨hdeclared, rfl⟩

theorem announces_of_broken (message : String) (details : List Detail)
    (validates : e.contract.validateResponses = true) :
    e.contract.Announces (.brokenContract message details) :=
  ⟨built.has_unprocessable validates, rfl⟩

theorem announces_of_accept (equipped : e.Equipped) {response : Response}
    (h : (e.check.accept r response).run.run d = (.error failure, d₁)) :
    e.contract.Announces failure := by
  have hrefused := congrArg Prod.fst h
  have validates : e.contract.validateResponses = true := by
    rw [ResponseCheck.outcome_accept] at hrefused
    split at hrefused
    · assumption
    · cases hrefused
  cases ResponseCheck.refused_of_accept hrefused with
  | undeclared hspec =>
    obtain ⟨message, rfl, -⟩ := ResponseCheck.undeclared_of_specFor hspec
    exact announces_of_broken built message [] validates
  | unreread hnone => exact absurd hnone (BodyParsers.forRereading?_ne_none equipped.parsers)
  | unread => exact announces_of_broken built _ [] validates
  | breach _ hbreach =>
    obtain ⟨message, details, rfl, -⟩ := hbreach.opens
    exact announces_of_broken built message details validates

theorem announces_of_acceptRaw (equipped : e.Equipped) {v : Json} {renderer : Renderer}
    (hmodification : e.contract.modification ≠ none) (held : d.renderer? = some renderer)
    (h : (e.check.acceptRaw v).run.run d = (.error failure, d₁)) : e.contract.Announces failure := by
  have hrefused := congrArg Prod.fst h
  obtain ⟨modification, hsome⟩ := Option.ne_none_iff_exists'.mp hmodification
  have validates : e.contract.validateResponses = true := by
    cases hvalidates : e.contract.validateResponses with
    | true => rfl
    | false =>
      have hunchecked : e.check.contract.validateResponses = false := hvalidates
      rw [ResponseCheck.run_acceptRaw hsome held, hunchecked] at hrefused
      cases hrefused
  cases ResponseCheck.rawRefused_of_acceptRaw hrefused with
  | unassociated hnone => exact absurd hnone hmodification
  | unnegotiated hnone => cases held.symm.trans hnone
  | undeclared hmodification hspec =>
    rw [equipped.declared _ hmodification] at hspec
    cases hspec
  | breach _ hbreach =>
    obtain ⟨message, details, rfl, -⟩ := hbreach.opens
    exact announces_of_broken built message details validates

variable [Deciding (StateM W)]

theorem announces_of_identify (h : ((e.identify r).run start).run w = ((.error failure, d), w₁))
    (declined : ∀ i answer, .asked i answer ∈ e.seen r start w → answer = .ok none) :
    e.contract.Announces failure := by
  rcases declined_or_asked h with ⟨-, rfl, providers, hauth⟩ | ⟨i, hi⟩
  · have hsome := AuthPolicy.ne_nil_of_combine_eq_some (built.auth.symm.trans hauth)
    exact ⟨built.has_unauthorized hauth hsome, rfl⟩
  · cases declined i _ hi

theorem Raised.announces (h : Raised e r start w failure) (equipped : e.Equipped)
    (model : e.model.specs = e.contract.components)
    (builtIn : ∀ spec ∈ e.contract.components, spec.component ∈ Component.all)
    (readers : ∀ p ∈ e.contract.parsers.values, p.FailsReading)
    (holding : (e.afterIdentify r start w).HoldsReader) : e.contract.Announces failure := by
  cases h with
  | unidentified hidentify declined => exact announces_of_identify built hidentify declined
  | unparsed hidentify hparse =>
    rw [afterIdentify, hidentify] at holding
    exact announces_of_parse built equipped model builtIn readers holding hparse
  | unacceptable _ hchosen =>
    obtain ⟨-, message, rfl⟩ :=
      Renderers.error_of_choose equipped.renderers (Serving.error_of_rendererStep hchosen)
    exact ⟨built.has_notAcceptable, rfl⟩
  | refused _ _ haccept => exact announces_of_accept built equipped haccept
  | rawRefused hmodification _ hchosen haccept =>
    exact announces_of_acceptRaw built equipped hmodification
      (Serving.held_of_rendererStep hchosen) haccept

end Announcing

variable [Deciding (StateM W)]

/-- Whatever an endpoint of a controller that can be made raises by itself is as its contract says, also where
a parser has been decided on before, as long as this one fails for what it cannot read only: the status is
declared, and the envelope is taken by the error model as it is, strict or not. It raises every
failure of a run but those that parts from outside give and those that tell that the answer could not be put
together; and each that it raises is what the run ends with. -/
theorem raised_failures_announced {d : ControllerDecl (StateM W)} {c : Controller (StateM W)}
    {method : String} {e : Endpoint (StateM W)} (made : d.build = .ok c)
    (served : (method, e) ∈ c.endpoints) (json : d.serializer = .json)
    (builtIn : ∀ spec ∈ e.contract.components, spec.component ∈ Component.all)
    (readers : ∀ p ∈ e.contract.parsers.values, p.FailsReading) (r : Request) (start : Decisions)
    (w : W) (holding : (e.afterIdentify r start w).HoldsReader) :
    (∀ failure, Raised e r start w failure →
      (∃ decided w₁, (e.run r start).run w = ((.error failure, decided), w₁)) ∧
      e.contract.responses.has failure.status = true ∧
      ((∀ detail ∈ failure.details, detail.Indexable) → ∀ strict,
        errorModel.validate failure.envelope strict = .ok failure.envelope)) ∧
    ∀ failure decided w₁, (e.run r start).run w = ((.error failure, decided), w₁) →
      Raised e r start w failure ∨ FromOutside e r start w failure ∨
        ∃ message, failure = .internal message := by
  have equipped := equipped_of_build made served json
  obtain ⟨decl, -, specs, -, hcontract, hmade⟩ := ControllerDecl.made_of_build made served
  have built := Contract.build_eq_ok_iff.mp hcontract
  have model : e.model.specs = e.contract.components := by
    rw [built.components_eq, hmade]
    rfl
  refine ⟨fun failure hraised => ?_, fun failure decided w₁ hrun => raised_of_run hrun⟩
  have hannounced := hraised.announces built equipped model builtIn readers holding
  refine ⟨hraised.run_fails, hannounced.status, fun hindexable strict => ?_⟩
  rw [hannounced.envelope]
  exact errorModel_validate_listing hindexable strict

def numbers : ControllerDecl (StateM Nat) where
  name := "Numbers"
  bases := [⟨"Body", [.concrete (Schema.listOf Schema.plainInteger)]⟩]
  endpoints := [{
    method := "post"
    payload := { raw? := some { returnType := Schema.plainInteger } }
    handler := fun _ => pure (.ok (.raw (.int 3))) }]

def numbersPosted : Request where
  method := "POST"
  uri := .root
  headers := ⟨[("content-type", Text.utf8 "application/json")]⟩
  body := Text.utf8 "[1,true]"

theorem numbers_components :
    numbers.components = .ok [⟨.body, [Schema.listOf Schema.plainInteger]⟩] := by
  with_unfolding_all rfl

theorem wrong_number_announced :
    ∃ c e, numbers.build = .ok c ∧ ("post", e) ∈ c.endpoints ∧
      ∃ failure, Raised e numbersPosted {} 0 failure ∧ failure = .invalid
        [⟨"Input should be a valid integer", some [.key "parsed_body", .index 1], "int_type"⟩]
        .badRequest ∧
      e.contract.responses.has .badRequest = true ∧
      errorModel.validate failure.envelope (some true) = .ok failure.envelope := by
  have hserves : "post" ∈ numbers.servedMethods := by decide +kernel
  obtain ⟨c, e, hmade, hserved⟩ := ControllerDecl.served_of_mem hserves
  obtain ⟨decl, hdecl, specs, hspecs, hcontract, hendpoint⟩ :=
    ControllerDecl.made_of_build hmade hserved
  obtain rfl := List.mem_singleton.mp hdecl
  cases numbers_components.symm.trans hspecs
  have built := Contract.build_eq_ok_iff.mp hcontract
  have hparsers : e.contract.parsers = [("application/json", .json)] :=
    (Except.ok.inj built.parsers).symm
  have hparse : (e.parse numbersPosted).run.run {} = (.error (.invalid
      [⟨"Input should be a valid integer", some [.key "parsed_body", .index 1], "int_type"⟩]
      .badRequest), { parser? := some .json }) := by
    rw [parse, hparsers, hendpoint]
    with_unfolding_all rfl
  have hidentify : ((e.identify numbersPosted).run {}).run 0 = ((.ok none, {}), 0) := by
    rw [identify, built.auth]
    rfl
  have hraised : Raised e numbersPosted {} 0 _ := .unparsed hidentify hparse
  have builtIn : ∀ spec ∈ e.contract.components, spec.component ∈ Component.all := by
    rw [built.components_eq]
    exact List.forall_mem_singleton.mpr (by simp [Component.all])
  have readers : ∀ p ∈ e.contract.parsers.values, p.FailsReading := by
    rw [hparsers]
    exact List.forall_mem_singleton.mpr BodyParser.BuiltIn.json.failsReading
  have holding : (e.afterIdentify numbersPosted {} 0).HoldsReader := by
    rw [afterIdentify, hidentify]
    intro p hp
    cases hp
  have hannounced := (raised_failures_announced hmade hserved rfl builtIn readers numbersPosted {} 0
    holding).1 _ hraised
  refine ⟨c, e, hmade, hserved, _, hraised, rfl, hannounced.2.1, hannounced.2.2 ?_ (some true)⟩
  intro detail hdetail steps hsteps step hstep
  obtain rfl := List.mem_singleton.mp hdetail
  cases hsteps
  rcases List.mem_pair.mp hstep with rfl | rfl
  · trivial
  · have hsmall : 1 < signedLimit := by decide +kernel
    exact hsmall

end Endpoint

end Accord
