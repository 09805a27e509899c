import Accord.Proofs.Component.Refusing
import Accord.Proofs.Contract.Breaches
import Accord.Proofs.Contract.RawAnswer
import Accord.Proofs.Negotiation.Rereading
import Accord.Proofs.Service.Gating
import Accord.Proofs.Service.Recovery

namespace Accord

theorem Request.slash_mem_contentType {r : Request} {essence : String}
    (h : r.contentType? = some essence) : '/' ∈ essence.toList := by
  obtain ⟨raw, -, rfl⟩ := Option.map_eq_some_iff.mp h
  rw [MediaType.toList_essence]
  exact List.mem_append_right _ List.mem_cons_self

namespace Endpoint

variable {W : Type} [Deciding (StateM W)] {e : Endpoint (StateM W)} {r : Request} {w w₁ : W}
  {start d d₁ d₂ : Decisions}  {failure : Failure}

/-- A component that has its turn in the run, and what is decided before it. -/
inductive Takes (e : Endpoint (StateM W)) (r : Request) (start : Decisions) (w : W) : ComponentSpec → Decisions → Prop
  | intro {identity : Option Json} {taken : List (ComponentSpec × Json)} {spec : ComponentSpec}
      {after : List ComponentSpec} {d d₁ : Decisions} {w₁ : W} :
      ((e.identify r).run start).run w = ((.ok identity, d), w₁) →
      e.model.specs = taken.map Prod.fst ++ spec :: after →
      Taken e.contract.parsers r d taken d₁ → Takes e r start w spec d₁

/-- What the handler gives when the run reaches it, and what is decided behind it. -/
inductive Handles (e : Endpoint (StateM W)) (r : Request) (start : Decisions) (w : W) :
    Except Failure HandlerOutput → Decisions → Prop
  | intro {identity : Option Json} {components : ParsedComponents}
      {output : Except Failure HandlerOutput} {d d₁ d₂ : Decisions} {w₁ w₂ : W} :
      ((e.identify r).run start).run w = ((.ok identity, d), w₁) →
      (e.parse r).run.run d = (.ok components, d₁) →
      ((e.handle ⟨r, components, identity⟩).run d₁).run w₁ = ((output, d₂), w₂) →
      Handles e r start w output d₂

theorem Handles.unique {output other : Except Failure HandlerOutput}
    (h : Handles e r start w output d) (hother : Handles e r start w other d₁) : output = other := by
  obtain ⟨hidentify, hparse, hhandle⟩ := h
  obtain ⟨hidentify', hparse', hhandle'⟩ := hother
  rw [hidentify] at hidentify'
  cases hidentify'
  rw [hparse] at hparse'
  cases hparse'
  rw [hhandle] at hhandle'
  cases hhandle'
  rfl

/-- A failure that a part gives which is not of the service itself: a provider, a component, a parser or
a renderer that not every service has, or the handler. -/
inductive FromOutside (e : Endpoint (StateM W)) (r : Request) (start : Decisions) (w : W) : Failure → Prop
  | provider {i : Nat} {failure : Failure} : .asked i (.error failure) ∈ e.seen r start w →
      FromOutside e r start w failure
  | component {spec : ComponentSpec} {d d₁ : Decisions} {failure : Failure} :
      Takes e r start w spec d → spec.component ∉ Component.all →
      spec.take e.contract.parsers r d = (.error failure, d₁) → FromOutside e r start w failure
  | parser {spec : ComponentSpec} {d d₁ d₂ : Decisions} {p : BodyParser} {failure : Failure} :
      Takes e r start w spec d → spec.take e.contract.parsers r d = (.error failure, d₂) →
      (Serving.parser e.contract.parsers r).run.run d = (.ok p, d₁) → ¬p.BuiltIn →
      p.Unread r spec.model d₁.form? spec.component failure → FromOutside e r start w failure
  | handler {d : Decisions} {failure : Failure} : Handles e r start w (.error failure) d →
      FromOutside e r start w failure
  | renderer {v : Json} {d d₁ d₂ : Decisions} {renderer : Renderer} {answer : RawAnswer}
      {failure : Failure} :
      Handles e r start w (.ok (.raw v)) d →
      (Serving.renderer e.contract.renderers r).run.run d = (.ok renderer, d₁) →
      (e.check.acceptRaw v).run.run d₁ = (.ok answer, d₂) → answer.toResponse = .error failure →
      answer.renderer.render answer.data = .error failure → FromOutside e r start w failure

theorem run_of_untaken {spec : ComponentSpec} (htakes : Takes e r start w spec d)
    (h : spec.take e.contract.parsers r d = (.error failure, d₁)) :
    ∃ decided w₁, (e.run r start).run w = ((.error failure, decided), w₁) := by
  obtain ⟨hidentify, hspecs, htaken⟩ := htakes
  have hparse := RequestModel.parse_of_first_failure hspecs htaken h e.serializer
  exact ⟨_, _, run_of_unparsed hidentify hparse⟩

theorem FromOutside.run_fails (h : FromOutside e r start w failure) :
    ∃ decided w₁, (e.run r start).run w = ((.error failure, decided), w₁) := by
  cases h with
  | provider hi =>
    obtain ⟨asks, hasks, hevents⟩ := (e.seen_course r start w).identified
    have hwho := hasks.error_of_asked ((Course.asked_mem_iff hevents).mp hi)
    rcases hidentify : ((e.identify r).run start).run w with ⟨⟨who, d⟩, w₁⟩
    rw [hidentify] at hwho
    obtain rfl : who = .error failure := hwho
    exact ⟨_, _, run_of_unidentified hidentify⟩
  | component htakes _ h => exact run_of_untaken htakes h
  | parser htakes h _ _ _ => exact run_of_untaken htakes h
  | handler hhandles =>
    obtain ⟨hidentify, hparse, hhandle⟩ := hhandles
    exact ⟨_, _, run_of_unhandled hidentify hparse hhandle⟩
  | @renderer v d _ d₂ _ _ _ hhandles hchosen haccept hresponse _ =>
    obtain ⟨hidentify, hparse, hhandle⟩ := hhandles
    have hrespond : (e.respond r (.raw v)).run.run d = (.error failure, d₂) := by
      rw [respond, Serving.run_bind_of_ok hchosen, Serving.run_bind_of_ok haccept,
        Serving.run_liftM, hresponse]
    exact ⟨_, _, (run_of_handled hidentify hparse hhandle).trans (congrArg (·, _) hrespond)⟩

/-- The failures that an endpoint tells by itself in the run. -/
inductive Tells (e : Endpoint (StateM W)) (r : Request) (start : Decisions) (w : W) : Failure → Prop
  | unidentified : Tells e r start w (.notAuthenticated "Not authenticated")
  | unsupported {essence : String} : r.contentType? = some essence →
      Tells e r start w (e.contract.parsers.unsupported essence)
  | untaken {message : String} : ¬Text.Opens "Cannot parse request body" message →
      Tells e r start w (.unsupported message)
  | invalid {details : List Detail} : Tells e r start w (.invalid details .badRequest)
  | unacceptable {message : String} : r.accept?.isSome = true →
      Tells e r start w (.notAcceptable message)
  | unassociated : Tells e r start w (.internal ("Endpoint '" ++ e.contract.method ++
      "' returned raw data without associated modification"))
  | unsendable {message : String} :
      message = "Invalid header name" ∨ message = "Invalid header value" →
      Tells e r start w (.internal message)
  | undeclared {response : Response} {d : Decisions} {failure : Failure} :
      Handles e r start w (.ok (.response response)) d →
      e.check.specFor response.status = .error failure → Tells e r start w failure
  | unread {failure : Failure} : Tells e r start w (ResponseCheck.unreadable failure)
  | breach {spec : ResponseSpec} {failure : Failure} :
      ResponseCheck.Breach e.check spec failure → Tells e r start w failure

structure Equipped {m : Type → Type} (e : Endpoint m) : Prop where
  parsers : e.contract.parsers ≠ []
  renderers : e.contract.renderers ≠ []
  declared : ∀ modification, e.contract.modification = some modification →
    e.check.specFor modification.status = .ok modification.toSpec
  checked : ∀ r members failure, e.model.check e.serializer r members = .error failure →
    ∃ details, failure = .invalid details .badRequest

omit [Deciding (StateM W)] in
theorem equipped_of_build {m : Type → Type} [Monad m] {d : ControllerDecl m} {c : Controller m}
    {method : String} {e : Endpoint m} (built : d.build = .ok c) (served : (method, e) ∈ c.endpoints)
    (json : d.serializer = .json) : e.Equipped := by
  obtain ⟨decl, -, specs, -, hcontract, hmade⟩ := ControllerDecl.made_of_build built served
  have hbuilt := Contract.build_eq_ok_iff.mp hcontract
  have hmodel : e.model = RequestModel.ofSpecs d.name specs d.strictRequests := by
    rw [hmade]
    rfl
  have hserializer : e.serializer = .json := by
    rw [hmade]
    exact json
  constructor
  case parsers => exact Contract.ne_nil_of_ownOrShared hbuilt.parsers
  case renderers => exact Contract.ne_nil_of_ownOrShared hbuilt.renderers
  case declared =>
    intro modification hmodification
    exact ResponseCheck.specFor_of_find? (hbuilt.find?_modification hmodification)
  case checked =>
    intro r members failure h
    rw [hmodel, hserializer] at h
    exact RequestModel.invalid_of_check h

theorem told_of_identify (h : ((e.identify r).run start).run w = ((.error failure, d), w₁)) :
    FromOutside e r start w failure ∨ Tells e r start w failure := by
  have hcourse := e.seen_course r start w
  rw [h] at hcourse
  generalize ((e.run r start).run w).1 = out at hcourse
  cases hcourse with
  | refused hidentified =>
    rcases hidentified.asked_of_error with rfl | ⟨i, hi⟩
    · exact .inr .unidentified
    · exact .inl (.provider hi)

theorem told_of_take (equipped : e.Equipped) {spec : ComponentSpec} (htakes : Takes e r start w spec d)
    (h : spec.take e.contract.parsers r d = (.error failure, d₁)) :
    FromOutside e r start w failure ∨ Tells e r start w failure := by
  by_cases hcomponent : spec.component ∈ Component.all
  · cases ComponentSpec.untaken_of_take hcomponent h with
    | unchosen hchoose =>
      obtain ⟨essence, hessence, rfl⟩ := BodyParsers.error_of_choose equipped.parsers hchoose
      exact .inr (.unsupported hessence)
    | @unread p _ _ hstep hunread =>
      by_cases hparser : p.BuiltIn
      · obtain ⟨message, rfl, hother⟩ := hparser.message_of_unread hunread
        exact .inr (.untaken hother)
      · exact .inl (.parser htakes h hstep hparser hunread)
    | other hother => exact .inr (.untaken hother)
  · exact .inl (.component htakes hcomponent h)

theorem told_of_parse (equipped : e.Equipped) {identity : Option Json}
    (hidentify : ((e.identify r).run start).run w = ((.ok identity, d), w₁))
    (h : (e.parse r).run.run d = (.error failure, d₁)) :
    FromOutside e r start w failure ∨ Tells e r start w failure := by
  rcases RequestModel.error_of_parse h with ⟨taken, spec, after, d₂, hspecs, htaken, hfails⟩ |
    ⟨members, hcheck⟩
  · exact told_of_take equipped (.intro hidentify hspecs htaken) hfails
  · obtain ⟨details, rfl⟩ := equipped.checked r members failure hcheck
    exact .inr .invalid

theorem told_of_raw (equipped : e.Equipped) {v : Json} {renderer : Renderer} {d₂ : Decisions}
    (hhandles : Handles e r start w (.ok (.raw v)) d)
    (hchosen : (Serving.renderer e.contract.renderers r).run.run d = (.ok renderer, d₁))
    (h : (e.check.acceptRaw v >>= fun answer => liftM answer.toResponse :
      Serving Response).run.run d₁ = (.error failure, d₂)) :
    FromOutside e r start w failure ∨ Tells e r start w failure := by
  rcases Serving.error_of_run_bind h with hrefused | ⟨answer, d₃, haccept, h⟩
  · cases ResponseCheck.rawRefused_of_acceptRaw (congrArg Prod.fst hrefused) with
    | unassociated _ => exact .inr .unassociated
    | unnegotiated hnone => cases (Serving.held_of_rendererStep hchosen).symm.trans hnone
    | undeclared hmodification hspec =>
      rw [equipped.declared _ hmodification] at hspec
      cases hspec
    | breach _ hbreach => exact .inr (.breach hbreach)
  · rw [Serving.run_liftM] at h
    have hresponse := (Prod.mk.inj h).1
    rcases RawAnswer.error_of_toResponse hresponse with hrender | rfl | rfl
    · exact .inl (.renderer hhandles hchosen haccept hresponse hrender)
    · exact .inr (.unsendable (.inl rfl))
    · exact .inr (.unsendable (.inr rfl))

theorem told_of_respond (equipped : e.Equipped) {output : HandlerOutput}
    (hhandles : Handles e r start w (.ok output) d)
    (h : (e.respond r output).run.run d = (.error failure, d₁)) :
    FromOutside e r start w failure ∨ Tells e r start w failure := by
  rcases Serving.error_of_run_bind h with hrefused | ⟨renderer, d₂, hchosen, h⟩
  · obtain ⟨said, message, rfl⟩ :=
      Renderers.error_of_choose equipped.renderers (Serving.error_of_rendererStep hrefused)
    exact .inr (.unacceptable said)
  cases output with
  | raw v => exact told_of_raw equipped hhandles hchosen h
  | response response =>
    cases ResponseCheck.refused_of_accept (congrArg Prod.fst h) with
    | undeclared hspec => exact .inr (.undeclared hhandles hspec)
    | unreread hnone => exact absurd hnone (BodyParsers.forRereading?_ne_none equipped.parsers)
    | unread => exact .inr .unread
    | breach _ hbreach => exact .inr (.breach hbreach)

/-- Every failure of a run is one that a part from outside gives, or one that the endpoint tells by
itself. -/
theorem told_of_run (equipped : e.Equipped) {decided : Decisions}
    (h : (e.run r start).run w = ((.error failure, decided), w₁)) :
    FromOutside e r start w failure ∨ Tells e r start w failure := by
  rcases hidentify : ((e.identify r).run start).run w with ⟨⟨refusal | identity, d⟩, w₂⟩
  · rw [run_of_unidentified hidentify] at h
    cases h
    exact told_of_identify hidentify
  rcases hparse : (e.parse r).run.run d with ⟨refusal | components, d₁⟩
  · rw [run_of_unparsed hidentify hparse] at h
    cases h
    exact told_of_parse equipped hidentify hparse
  rcases hhandle : ((e.handle ⟨r, components, identity⟩).run d₁).run w₂ with
    ⟨⟨refusal | output, d₂⟩, w₃⟩
  · rw [run_of_unhandled hidentify hparse hhandle] at h
    cases h
    exact .inl (.handler (.intro hidentify hparse hhandle))
  · rw [run_of_handled hidentify hparse hhandle] at h
    exact told_of_respond equipped (.intro hidentify hparse hhandle) (Prod.mk.inj h).1

/-- The failures that stand for what cannot happen in the run. -/
inductive Impossible (e : Endpoint (StateM W)) (r : Request) (start : Decisions) (w : W) : Failure → Prop
  /-- No parser takes a request that does not say of which content type it is. -/
  | untyped {message : String} : r.contentType? = none →
      Text.Opens "Cannot parse request body" message → Impossible e r start w (.unsupported message)
  /-- The content type that is not said is told as missing. -/
  | missingType : Impossible e r start w (e.contract.parsers.unsupported "<missing>")
  /-- No renderer is acceptable to a request that does not say what it accepts. -/
  | unacceptable {message : String} : r.accept? = none → Impossible e r start w (.notAcceptable message)
  | unnegotiated :
      Impossible e r start w (.internal "Raw data cannot be validated before renderer negotiation")
  /-- The check of all components together gives something else than an object. -/
  | notObject {message : String} : Text.Opens "Combined model " message →
      Impossible e r start w (.internal message)
  | unreread : Impossible e r start w (.internal "No parser can read the response body back")
  /-- Nothing is declared for the status that raw data is given. -/
  | undeclared {v : Json} {d : Decisions} {modification : Modification} {message : String} :
      Handles e r start w (.ok (.raw v)) d → e.contract.modification = some modification →
      Text.Opens "Returned status code " message →
      Impossible e r start w (.brokenContract message [])

namespace Impossible

theorem of_unsupported {message : String} (h : Impossible e r start w (.unsupported message)) :
    Text.Opens "Cannot parse request body" message ∧
      (r.contentType? = none ∨
        Failure.unsupported message = e.contract.parsers.unsupported "<missing>") := by
  generalize hfailure : Failure.unsupported message = failure at h
  cases h with
  | untyped huntyped opens =>
    cases hfailure
    exact ⟨opens, .inl huntyped⟩
  | missingType =>
    obtain rfl := Failure.unsupported.inj hfailure
    exact ⟨by simp [Text.Opens], .inr rfl⟩
  | _ => cases hfailure

theorem of_internal {message : String} (h : Impossible e r start w (.internal message)) :
    Text.Opens "Raw data" message ∨ Text.Opens "Combined model " message ∨
      Text.Opens "No parser" message := by
  generalize hfailure : Failure.internal message = failure at h
  cases h with
  | unnegotiated =>
    cases hfailure
    exact .inl (by decide)
  | notObject opens =>
    cases hfailure
    exact .inr (.inl opens)
  | unreread =>
    cases hfailure
    exact .inr (.inr (by decide))
  | _ => cases hfailure

theorem of_brokenContract {message : String} {details : List Detail}
    (h : Impossible e r start w (.brokenContract message details)) :
    Text.Opens "Returned status code " message ∧ ∃ v d, Handles e r start w (.ok (.raw v)) d := by
  cases h with
  | undeclared hhandles _ opens => exact ⟨opens, _, _, hhandles⟩

end Impossible

theorem Tells.possible (h : Tells e r start w failure) : ¬Impossible e r start w failure := by
  intro himpossible
  cases h with
  | unidentified => cases himpossible
  | @unsupported essence hessence =>
    obtain ⟨-, huntyped | hmissing⟩ := himpossible.of_unsupported
    · cases hessence.symm.trans huntyped
    · have hslash := Request.slash_mem_contentType hessence
      rw [BodyParsers.eq_of_unsupported_eq hmissing] at hslash
      exact absurd hslash (by decide)
  | untaken hother => exact hother himpossible.of_unsupported.1
  | invalid => cases himpossible
  | unacceptable said =>
    cases himpossible with
    | unacceptable hnone =>
      rw [hnone] at said
      cases said
  | unassociated =>
    rcases himpossible.of_internal with opens | opens | opens
    · exact absurd opens (by simp [Text.Opens])
    · exact absurd opens (by simp [Text.Opens])
    · exact absurd opens (by simp [Text.Opens])
  | unsendable hmessage =>
    have hopens := himpossible.of_internal
    rcases hmessage with rfl | rfl
    · exact absurd hopens (by decide)
    · exact absurd hopens (by decide)
  | undeclared hhandles hspec =>
    obtain ⟨message, rfl, -⟩ := ResponseCheck.undeclared_of_specFor hspec
    obtain ⟨-, v, d, hraw⟩ := himpossible.of_brokenContract
    cases hhandles.unique hraw
  | unread => exact absurd himpossible.of_brokenContract.1 (by simp [Text.Opens])
  | breach hbreach =>
    obtain ⟨message, details, rfl, opens⟩ := hbreach.opens
    have hreturned := himpossible.of_brokenContract.1
    rcases opens with opens | opens
    · exact opens.apart (by decide) (by decide) hreturned
    · exact opens.apart (by decide) (by decide) hreturned

theorem rendererStep_of_unsaid {renderers : Renderers} (nonempty : renderers ≠ [])
    (h : r.accept? = none) (d : Decisions) :
    ∃ renderer d₁, (Serving.renderer renderers r).run.run d = (.ok renderer, d₁) := by
  rcases hstep : (Serving.renderer renderers r).run.run d with ⟨refusal | renderer, d₁⟩
  · obtain ⟨said, -⟩ := Renderers.error_of_choose nonempty (Serving.error_of_rendererStep hstep)
    rw [h] at said
    cases said
  · exact ⟨renderer, d₁, rfl⟩

/-- No endpoint of a controller that can be made with the serializer of JSON fails in a way that cannot
happen, whatever the request, the handler and the providers: a run ends with such a failure just where a
part from outside has given it in this run. And whatever has been decided, a request that does not say what
it accepts has a renderer, be it for its answer or for a failure. -/
theorem impossible_unraised {d : ControllerDecl (StateM W)} {c : Controller (StateM W)}
    {method : String} {e : Endpoint (StateM W)} (built : d.build = .ok c)
    (served : (method, e) ∈ c.endpoints) (json : d.serializer = .json) (r : Request)
    (start : Decisions) (w : W) :
    (∀ failure, Impossible e r start w failure →
      ((∃ decided w₁, (e.run r start).run w = ((.error failure, decided), w₁)) ↔
        FromOutside e r start w failure)) ∧
    (r.accept? = none → ∀ decided, ∃ renderer decided₁,
      (Serving.renderer e.contract.renderers r).run.run decided = (.ok renderer, decided₁)) := by
  have equipped := equipped_of_build built served json
  constructor
  · intro failure himpossible
    constructor
    · rintro ⟨decided, w₁, hrun⟩
      rcases told_of_run equipped hrun with houtside | htells
      · exact houtside
      · exact absurd himpossible htells.possible
    · exact FromOutside.run_fails
  · intro hunsaid decided
    exact rendererStep_of_unsaid equipped.renderers hunsaid decided

def impostor : AuthProvider (StateM Nat) where
  identify := fun _ => do
    modify (· + 1)
    return .error (.notAcceptable "Nothing suits")

def guarded : ControllerDecl (StateM Nat) where
  name := "Guarded"
  defaults := { auth := .providers [impostor] }
  endpoints := [{
    method := "get"
    payload := { raw? := some { returnType := Schema.plainString } }
    handler := fun _ => pure (.ok (.raw (.string "open"))) }]

theorem guarded_refuses_from_outside :
    ∃ c e, guarded.build = .ok c ∧ ("get", e) ∈ c.endpoints ∧ knock.accept? = none ∧
      (e.run knock {}).run 0 = ((.error (.notAcceptable "Nothing suits"), {}), 1) ∧
      FromOutside e knock {} 0 (.notAcceptable "Nothing suits") ∧
      ∃ renderer decided,
        (Serving.renderer e.contract.renderers knock).run.run {} = (.ok renderer, decided) := by
  have hserves : "get" ∈ guarded.servedMethods := by decide +kernel
  obtain ⟨c, e, hbuilt, hserved⟩ := ControllerDecl.served_of_mem hserves
  obtain ⟨decl, hdecl, specs, -, hdeclared⟩ := ControllerDecl.declared_of_build hbuilt hserved
  obtain rfl := List.mem_singleton.mp hdecl
  have hidentify : ((e.identify knock).run {}).run 0 =
      ((.error (.notAcceptable "Nothing suits"), {}), 1) := by
    rw [identify, hdeclared.auth]
    rfl
  have hrun := run_of_unidentified hidentify
  obtain ⟨houtside, hrenderer⟩ := impossible_unraised hbuilt hserved rfl knock {} 0
  have hfails := (houtside (.notAcceptable "Nothing suits") (.unacceptable rfl)).mp ⟨_, _, hrun⟩
  exact ⟨c, e, hbuilt, hserved, rfl, hrun, hfails, hrenderer rfl {}⟩

end Endpoint

end Accord
