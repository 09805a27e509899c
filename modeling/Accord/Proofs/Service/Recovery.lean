import Accord.Proofs.Component.Taking
import Accord.Proofs.Contract.Accepting
import Accord.Proofs.Negotiation.Choosing
import Accord.Proofs.Service.Gating

namespace Accord

variable {W : Type} [Deciding (StateM W)]

/-- A failure in the hands of error handlers, one after the other: what comes out, and what is decided and
becomes of the world. -/
inductive Offered (r : Request) : List (ErrorHandler (StateM W)) → Failure → Decisions → W →
    Except Failure Response → Decisions → W → Prop
  | unanswered {failure : Failure} {d : Decisions} {w : W} :
      Offered r [] failure d w (.error failure) d w
  | answered {handler : ErrorHandler (StateM W)} {rest : List (ErrorHandler (StateM W))}
      {failure : Failure} {response : Response} {d d₁ : Decisions} {w w₁ : W} :
      ((handler.deciding r failure).run d).run w = ((.ok response, d₁), w₁) →
      Offered r (handler :: rest) failure d w (.ok response) d₁ w₁
  | passed {handler : ErrorHandler (StateM W)} {rest : List (ErrorHandler (StateM W))}
      {failure next : Failure} {out : Except Failure Response} {d d₁ d₂ : Decisions} {w w₁ w₂ : W} :
      ((handler.deciding r failure).run d).run w = ((.error next, d₁), w₁) →
      Offered r rest next d₁ w₁ out d₂ w₂ → Offered r (handler :: rest) failure d w out d₂ w₂

theorem run_bind_world {W α β : Type} {x : StateM W α} {a : α} {w w' : W} (h : x.run w = (a, w'))
    (f : α → StateM W β) : (x >>= f).run w = (f a).run w' := by
  rw [StateT.run_bind, h]
  rfl

theorem offer_offered (r : Request) (handlers : List (ErrorHandler (StateM W))) (failure : Failure)
    (d : Decisions) (w : W) :
    ∃ out d' w', ((ErrorHandler.offer r failure (handlers.map ErrorHandler.deciding)).run d).run w =
        ((out, d'), w') ∧ Offered r handlers failure d w out d' w' := by
  induction handlers generalizing failure d w with
  | nil => exact ⟨_, d, w, rfl, .unanswered⟩
  | cons handler rest ih =>
    rw [List.map_cons, ErrorHandler.offer]
    rcases hanswer : ((handler.deciding r failure).run d).run w with ⟨⟨next | response, d₁⟩, w₁⟩
    · obtain ⟨out, d₂, w₂, hrun, hoffered⟩ := ih next d₁ w₁
      refine ⟨out, d₂, w₂, ?_, .passed hanswer hoffered⟩
      rw [Deciding.run_bind_of_eq hanswer]
      exact hrun
    · refine ⟨_, d₁, w₁, ?_, .answered hanswer⟩
      rw [Deciding.run_bind_of_eq hanswer]
      rfl

theorem Offered.kept {r : Request} {handlers : List (ErrorHandler (StateM W))} {failure : Failure}
    {d d' : Decisions} {w w' : W} {out : Except Failure Response}
    (h : Offered r handlers failure d w out d' w') : d.Kept d' := by
  have hstep : ∀ {handler : ErrorHandler (StateM W)} {failure answer d d₁ w w₁},
      ((handler.deciding r failure).run d).run w = ((answer, d₁), w₁) → d.Kept d₁ := by
    intro handler failure answer d d₁ w w₁ hanswer
    have hkept := Deciding.keeps_step (handler r failure) d w
    change d.Kept (((handler.deciding r failure).run d).run w).1.2 at hkept
    rwa [hanswer] at hkept
  induction h with
  | unanswered => exact .refl _
  | answered hanswer => exact hstep hanswer
  | passed hanswer _ ih => exact (hstep hanswer).trans ih

/-- The renderer that an answer to a failure uses: the one that is held, else the one that the request
asks for, else the first one. -/
inductive AnswersWith {m : Type → Type} (e : Endpoint m) (r : Request) (d : Decisions) :
    Renderer → Prop
  | held {renderer : Renderer} : d.renderer? = some renderer → AnswersWith e r d renderer
  | accepted {key : String} {renderer : Renderer} :
      d.renderer? = none → r.accept?.isSome = true →
      MediaType.preferred? r.acceptedTypes e.contract.renderers.names = some key →
      e.contract.renderers.lookup key = some renderer → AnswersWith e r d renderer
  | first {key : String} {renderer : Renderer} {rest : Renderers} :
      d.renderer? = none →
      r.accept? = none ∨ MediaType.preferred? r.acceptedTypes e.contract.renderers.names = none →
      e.contract.renderers = (key, renderer) :: rest → AnswersWith e r d renderer

theorem AnswersWith.eq_of_held {m : Type → Type} {e : Endpoint m} {r : Request} {d : Decisions}
    {held renderer : Renderer} (h : AnswersWith e r d renderer) (hheld : d.renderer? = some held) :
    held = renderer := by
  cases h with
  | held hsame => exact Option.some.inj (hheld.symm.trans hsame)
  | accepted hnone => cases hnone.symm.trans hheld
  | first hnone => cases hnone.symm.trans hheld

/-- What a failure that no handler has answered is answered with. -/
inductive LastAnswer (renderer : Renderer) (failure : Failure) : Response → Prop
  | written {body : Bytes} :
      renderer.render failure.envelope = .ok body →
      Message.isHeaderValue (Text.utf8 renderer.contentType) = true →
      LastAnswer renderer failure {
        status := failure.status
        headers := ⟨[("content-type", Text.utf8 renderer.contentType)]⟩
        body := body }
  | unrenderable {other : Failure} :
      renderer.render failure.envelope = .error other →
      LastAnswer renderer failure { status := .internalError }
  | unsendable :
      Message.isHeaderValue (Text.utf8 renderer.contentType) = false →
      LastAnswer renderer failure { status := .internalError }

theorem answer_lastAnswer (renderer : Renderer) (failure : Failure) :
    LastAnswer renderer failure (match failure.answer (some renderer) with
      | .ok response => response
      | .error _ => { status := .internalError }) := by
  have hname : Message.headerName? "Content-Type" = some "content-type" := rfl
  cases hrender : renderer.render failure.envelope with
  | error other =>
    simp only [Failure.answer, hrender, bind, Except.bind]
    exact .unrenderable hrender
  | ok body =>
    simp only [Failure.answer, hrender, bind, Except.bind, Response.withHeader, hname]
    cases hvalue : Message.isHeaderValue (Text.utf8 renderer.contentType) with
    | false => exact .unsendable hvalue
    | true => exact .written hrender hvalue

theorem RequestModel.renderer_of_taken {model : RequestModel} {parsers : BodyParsers} {r : Request}
    {taken : List (ComponentSpec × Json)} {after : List ComponentSpec} {d d₁ : Decisions}
    {held : Renderer} (hspecs : model.specs = taken.map Prod.fst ++ after)
    (htaken : Taken parsers r d taken d₁) (hafter : ∀ spec ∈ after, spec.component.KeepsRenderer)
    (hheld : d₁.renderer? = some held) (serializer : Serializer) :
    ((model.parse parsers serializer r).run.run d).2.renderer? = some held := by
  unfold parse
  split
  · next hempty =>
    have hnone : taken.map Prod.fst = [] :=
      (List.append_eq_nil_iff.mp (hspecs.symm.trans (List.isEmpty_iff.mp hempty))).1
    cases List.map_eq_nil_iff.mp hnone
    cases htaken
    exact hheld
  · have hrest : ∀ members, Serving.KeepsRenderer (after.foldlM (takeStep parsers r) members) :=
      fun members => .foldlM (fun spec hspec _ => (hafter spec hspec parsers r spec.model).bind
        fun _ => Serving.keepsRenderer_pure _) members
    have hrun := run_foldlM_append htaken after []
    rw [← hspecs, ← extract_eq] at hrun
    have hextract : ((model.extract parsers r).run.run d).2.renderer? = some held := by
      rw [hrun]
      exact hrest _ d₁ held hheld
    rw [Serving.run_bind]
    generalize (model.extract parsers r).run.run d = out at hextract ⊢
    obtain ⟨_ | members, d₂⟩ := out
    · exact hextract
    · exact Serving.keepsRenderer_liftM _ d₂ held hextract

namespace Endpoint

/-- What is decided at a point of the run of a request, where a stage of it is over. -/
inductive Reached (e : Endpoint (StateM W)) (r : Request) (start : Decisions) (w : W) : Decisions → Prop
  /-- What is decided before the run, if no component can let go of a renderer. -/
  | started : (∀ spec ∈ e.model.specs, spec.component.KeepsRenderer) → Reached e r start w start
  /-- Some components have been taken, and those still to be taken cannot let go of a renderer. -/
  | taken {identity : Option Json} {taken : List (ComponentSpec × Json)}
      {after : List ComponentSpec} {d d₁ : Decisions} {w₁ : W} :
      ((e.identify r).run start).run w = ((.ok identity, d), w₁) →
      e.model.specs = taken.map Prod.fst ++ after → Taken e.contract.parsers r d taken d₁ →
      (∀ spec ∈ after, spec.component.KeepsRenderer) → Reached e r start w d₁
  | parsed {identity : Option Json} {out : Except Failure ParsedComponents} {d d₁ : Decisions}
      {w₁ : W} :
      ((e.identify r).run start).run w = ((.ok identity, d), w₁) →
      (e.parse r).run.run d = (out, d₁) → Reached e r start w d₁
  | handled {identity : Option Json} {components : ParsedComponents}
      {out : Except Failure HandlerOutput} {d d₁ d₂ : Decisions} {w₁ w₂ : W} :
      ((e.identify r).run start).run w = ((.ok identity, d), w₁) →
      (e.parse r).run.run d = (.ok components, d₁) →
      ((e.handle ⟨r, components, identity⟩).run d₁).run w₁ = ((out, d₂), w₂) → Reached e r start w d₂
  | negotiated {identity : Option Json} {components : ParsedComponents} {output : HandlerOutput}
      {chosen : Except Failure Renderer} {d d₁ d₂ d₃ : Decisions} {w₁ w₂ : W} :
      ((e.identify r).run start).run w = ((.ok identity, d), w₁) →
      (e.parse r).run.run d = (.ok components, d₁) →
      ((e.handle ⟨r, components, identity⟩).run d₁).run w₁ = ((.ok output, d₂), w₂) →
      (Serving.renderer e.contract.renderers r).run.run d₂ = (chosen, d₃) → Reached e r start w d₃

variable {e : Endpoint (StateM W)} {r : Request} {start d d₁ d₂ : Decisions} {w w₁ w₂ : W}

/-- The stages of a run, in the world as each leaves it. -/
theorem run_eq (e : Endpoint (StateM W)) (r : Request) (start : Decisions) (w : W) :
    (e.run r start).run w =
      match ((e.identify r).run start).run w with
      | ((.error failure, d), w₁) => ((.error failure, d), w₁)
      | ((.ok identity, d), w₁) =>
        match (e.parse r).run.run d with
        | (.error failure, d₁) => ((.error failure, d₁), w₁)
        | (.ok components, d₁) =>
          match ((e.handle ⟨r, components, identity⟩).run d₁).run w₁ with
          | ((.error failure, d₂), w₂) => ((.error failure, d₂), w₂)
          | ((.ok output, d₂), w₂) => ((e.respond r output).run.run d₂, w₂) := by
  rcases hidentify : ((e.identify r).run start).run w with ⟨⟨failure | identity, d⟩, w₁⟩
  · rw [run, run_bind_world hidentify]
    rfl
  · rw [run, run_bind_world hidentify]
    dsimp only
    rcases (e.parse r).run.run d with ⟨failure | components, d₁⟩
    · rfl
    · dsimp only
      rcases hhandle : ((e.handle ⟨r, components, identity⟩).run d₁).run w₁ with
        ⟨⟨failure | output, d₂⟩, w₂⟩ <;> rw [run_bind_world hhandle] <;> rfl

theorem run_of_unparsed {identity : Option Json} {failure : Failure}
    (hidentify : ((e.identify r).run start).run w = ((.ok identity, d), w₁))
    (hparse : (e.parse r).run.run d = (.error failure, d₁)) :
    (e.run r start).run w = ((.error failure, d₁), w₁) := by
  rw [run_eq, hidentify]
  dsimp only
  rw [hparse]

theorem run_of_unhandled {identity : Option Json} {components : ParsedComponents} {failure : Failure}
    (hidentify : ((e.identify r).run start).run w = ((.ok identity, d), w₁))
    (hparse : (e.parse r).run.run d = (.ok components, d₁))
    (hhandle : ((e.handle ⟨r, components, identity⟩).run d₁).run w₁ = ((.error failure, d₂), w₂)) :
    (e.run r start).run w = ((.error failure, d₂), w₂) := by
  rw [run_eq, hidentify]
  dsimp only
  rw [hparse]
  dsimp only
  rw [hhandle]

theorem run_of_handled {identity : Option Json} {components : ParsedComponents}
    {output : HandlerOutput}
    (hidentify : ((e.identify r).run start).run w = ((.ok identity, d), w₁))
    (hparse : (e.parse r).run.run d = (.ok components, d₁))
    (hhandle : ((e.handle ⟨r, components, identity⟩).run d₁).run w₁ = ((.ok output, d₂), w₂)) :
    (e.run r start).run w = ((e.respond r output).run.run d₂, w₂) := by
  rw [run_eq, hidentify]
  dsimp only
  rw [hparse]
  dsimp only
  rw [hhandle]

theorem kept_of_handle {input : HandlerInput} {out : Except Failure HandlerOutput}
    (h : ((e.handle input).run d).run w = ((out, d₁), w₁)) : d.Kept d₁ := by
  have hkept := Deciding.keeps_step (e.handler input) d w
  change d.Kept (((e.handle input).run d).run w).1.2 at hkept
  rwa [h] at hkept

omit [Deciding (StateM W)] in
theorem renderer_of_negotiated {chosen : Except Failure Renderer} {held : Renderer}
    (output : HandlerOutput)
    (hchosen : (Serving.renderer e.contract.renderers r).run.run d = (chosen, d₁))
    (hheld : d₁.renderer? = some held) :
    ((e.respond r output).run.run d).2.renderer? = some held := by
  unfold respond
  rw [Serving.run_bind, hchosen]
  cases chosen with
  | error failure => exact hheld
  | ok renderer =>
    cases output with
    | raw data =>
      exact ((e.check.keepsRenderer_acceptRaw data).bind fun _ => Serving.keepsRenderer_liftM _)
        d₁ held hheld
    | response response => exact e.check.keepsRenderer_accept r response d₁ held hheld

theorem renderer_of_handled {identity : Option Json} {components : ParsedComponents}
    {handled : Except Failure HandlerOutput} {out : Except Failure Response} {decided : Decisions}
    {held : Renderer} {w₃ : W}
    (hidentify : ((e.identify r).run start).run w = ((.ok identity, d), w₁))
    (hparse : (e.parse r).run.run d = (.ok components, d₁))
    (hhandle : ((e.handle ⟨r, components, identity⟩).run d₁).run w₁ = ((handled, d₂), w₂))
    (hrun : (e.run r start).run w = ((out, decided), w₃)) (hheld : d₂.renderer? = some held) :
    decided.renderer? = some held := by
  cases handled with
  | error failure =>
    rw [run_of_unhandled hidentify hparse hhandle] at hrun
    cases hrun
    exact hheld
  | ok output =>
    rw [run_of_handled hidentify hparse hhandle] at hrun
    have hkept := Serving.keepsRenderer_rendererStep e.contract.renderers r d₂ held hheld
    rcases hchosen : (Serving.renderer e.contract.renderers r).run.run d₂ with ⟨chosen, d₃⟩
    rw [hchosen] at hkept
    have hresponse := renderer_of_negotiated output hchosen hkept
    rw [(Prod.mk.inj hrun).1] at hresponse
    exact hresponse

theorem renderer_of_parsed {identity : Option Json} {parsed : Except Failure ParsedComponents}
    {out : Except Failure Response} {decided : Decisions} {held : Renderer}
    (hidentify : ((e.identify r).run start).run w = ((.ok identity, d), w₁))
    (hparse : (e.parse r).run.run d = (parsed, d₁))
    (hrun : (e.run r start).run w = ((out, decided), w₂)) (hheld : d₁.renderer? = some held) :
    decided.renderer? = some held := by
  cases parsed with
  | error failure =>
    rw [run_of_unparsed hidentify hparse] at hrun
    cases hrun
    exact hheld
  | ok components =>
    rcases hhandle : ((e.handle ⟨r, components, identity⟩).run d₁).run w₁ with ⟨⟨handled, d₃⟩, w₃⟩
    exact renderer_of_handled hidentify hparse hhandle hrun ((kept_of_handle hhandle).renderer hheld)

theorem renderer_of_taken {identity : Option Json} {taken : List (ComponentSpec × Json)}
    {after : List ComponentSpec} {out : Except Failure Response} {decided : Decisions} {held : Renderer}
    (hidentify : ((e.identify r).run start).run w = ((.ok identity, d), w₁))
    (hspecs : e.model.specs = taken.map Prod.fst ++ after) (htaken : Taken e.contract.parsers r d taken d₁)
    (hafter : ∀ spec ∈ after, spec.component.KeepsRenderer)
    (hrun : (e.run r start).run w = ((out, decided), w₂)) (hheld : d₁.renderer? = some held) :
    decided.renderer? = some held := by
  have hparsed := RequestModel.renderer_of_taken hspecs htaken hafter hheld e.serializer
  exact renderer_of_parsed hidentify rfl hrun hparsed

theorem renderer_of_started {out : Except Failure Response} {decided : Decisions} {held : Renderer}
    (hall : ∀ spec ∈ e.model.specs, spec.component.KeepsRenderer)
    (hrun : (e.run r start).run w = ((out, decided), w₁)) (hheld : start.renderer? = some held) :
    decided.renderer? = some held := by
  have hkept := (keeps_identify e r start w).renderer hheld
  rcases hidentify : ((e.identify r).run start).run w with ⟨⟨failure | identity, d⟩, w₂⟩
  · rw [hidentify] at hkept
    rw [run_of_unidentified hidentify] at hrun
    cases hrun
    exact hkept
  · rw [hidentify] at hkept
    exact renderer_of_taken hidentify rfl .nil hall hrun hkept

/-- A renderer that is held at some point of a run is held at the end of it. -/
theorem renderer_of_reached {out : Except Failure Response} {earlier decided : Decisions}
    {held : Renderer} (hrun : (e.run r start).run w = ((out, decided), w₁))
    (reached : Reached e r start w earlier) (hheld : earlier.renderer? = some held) :
    decided.renderer? = some held := by
  cases reached with
  | started hall => exact renderer_of_started hall hrun hheld
  | taken hidentify hspecs htaken hafter =>
    exact renderer_of_taken hidentify hspecs htaken hafter hrun hheld
  | parsed hidentify hparse => exact renderer_of_parsed hidentify hparse hrun hheld
  | handled hidentify hparse hhandle => exact renderer_of_handled hidentify hparse hhandle hrun hheld
  | @negotiated _ _ output _ _ _ _ _ _ _ hidentify hparse hhandle hchosen =>
    rw [run_of_handled hidentify hparse hhandle] at hrun
    have hresponse := renderer_of_negotiated output hchosen hheld
    rw [(Prod.mk.inj hrun).1] at hresponse
    exact hresponse

omit [Deciding (StateM W)] in
theorem answersWith_decideRenderer (some_renderer : e.contract.renderers ≠ []) (r : Request)
    (d : Decisions) :
    ∃ renderer, (e.decideRenderer r d).renderer? = some renderer ∧ AnswersWith e r d renderer := by
  obtain ⟨⟨key, first⟩, rest, hrenderers⟩ := List.exists_cons_of_ne_nil some_renderer
  have hfirst : e.contract.renderers.default? = some first := by rw [hrenderers]; rfl
  unfold decideRenderer
  rw [Serving.run_rendererStep]
  cases hheld : d.renderer? with
  | some renderer => exact ⟨renderer, hheld, .held hheld⟩
  | none =>
    cases haccept : r.accept? with
    | none =>
      refine ⟨first, ?_, .first hheld (Or.inl haccept) hrenderers⟩
      rw [hrenderers, Renderers.choose_of_unsaid haccept]
    | some accept =>
      have said : r.accept?.isSome = true := by rw [haccept, Option.isSome_some]
      cases hpreferred : MediaType.preferred? r.acceptedTypes e.contract.renderers.names with
      | some key =>
        obtain ⟨renderer, hlookup, hchoose⟩ := Renderers.choose_of_preferred said hpreferred
        refine ⟨renderer, ?_, .accepted hheld said hpreferred hlookup⟩
        rw [hchoose]
      | none =>
        obtain ⟨failure, hchoose⟩ := Renderers.choose_of_unacceptable said hpreferred
        refine ⟨first, ?_, .first hheld (Or.inr hpreferred) hrenderers⟩
        simp only [hchoose, hfirst, Decisions.holdRenderer, hheld, Slot.hold]

theorem serve_of_failure {failure : Failure} {decided : Decisions}
    (hrun : (e.run r start).run w = ((.error failure, decided), w₁)) :
    (e.serve r start).run w = (e.recover r decided failure).run w₁ := by
  rw [serve, run_bind_world hrun]

/-- Recovery ends with the first answer of a handler, or with the last answer to what they leave. All of
them find the renderer decided. -/
theorem recover_answers (some_renderer : e.contract.renderers ≠ []) (r : Request) (d : Decisions)
    (failure : Failure) (w : W) :
    ∃ renderer, AnswersWith e r d renderer ∧ (e.decideRenderer r d).renderer? = some renderer ∧
      ∃ out d' w', Offered r e.errorHandlers failure (e.decideRenderer r d) w out d' w' ∧
        match out with
        | .ok response => (e.recover r d failure).run w = (response, w')
        | .error last => ∃ response, LastAnswer renderer last response ∧
            (e.recover r d failure).run w = (response, w') := by
  obtain ⟨renderer, hrenderer, hwith⟩ := answersWith_decideRenderer some_renderer r d
  obtain ⟨out, d', w', hoffer, hoffered⟩ :=
    offer_offered r e.errorHandlers failure (e.decideRenderer r d) w
  refine ⟨renderer, hwith, hrenderer, out, d', w', hoffered, ?_⟩
  have hheld := hoffered.kept.renderer hrenderer
  cases out with
  | ok response =>
    rw [recover, run_bind_world hoffer]
    rfl
  | error last =>
    refine ⟨_, answer_lastAnswer renderer last, ?_⟩
    rw [recover, run_bind_world hoffer]
    dsimp only
    rw [hheld]
    cases last.answer (some renderer) <;> rfl

/-- Every failure of a request is answered, once. It is offered to the error handler of the endpoint and
then to that of the controller, to each as the one before passes it on, until one responds. What is left
is answered with its own status and envelope, as written by one renderer: the one that is held for the
request, else the one that the request asks for, else the first one. An empty answer is given only where
that renderer cannot write the envelope or its content type cannot be sent; and no other renderer has
been held at any point of the run, whoever decided on it. -/
theorem failure_answered {d : ControllerDecl (StateM W)} {c : Controller (StateM W)}
    {method : String} {e : Endpoint (StateM W)} (built : d.build = .ok c)
    (served : (method, e) ∈ c.endpoints) :
    ∃ decl ∈ d.allEndpoints, e.handler = decl.handler ∧
      ∀ r start w failure decided w₁, (e.run r start).run w = ((.error failure, decided), w₁) →
        ∃ renderer, AnswersWith e r decided renderer ∧
          (∀ earlier held, Reached e r start w earlier → earlier.renderer? = some held →
            held = renderer) ∧
          (e.decideRenderer r decided).renderer? = some renderer ∧
          ∃ out d₂ w₂, Offered r (decl.payload.options.errorHandler.toList ++ d.errorHandler.toList)
              failure (e.decideRenderer r decided) w₁ out d₂ w₂ ∧
            match out with
            | .ok response => (e.serve r start).run w = (response, w₂)
            | .error last =>
              (∀ payload status, last = .raised payload status →
                last.envelope = payload ∧ last.status = status) ∧
              ∃ response, LastAnswer renderer last response ∧
                (e.serve r start).run w = (response, w₂) := by
  obtain ⟨decl, hdecl, specs, -, hcontract, hmade⟩ := ControllerDecl.made_of_build built served
  have hbuilt := Contract.build_eq_ok_iff.mp hcontract
  have hhandler : e.handler = decl.handler := by rw [hmade]; rfl
  have hhandlers : e.errorHandlers =
      decl.payload.options.errorHandler.toList ++ d.errorHandler.toList := by
    have hshared : e.sharedErrorHandler = d.errorHandler := by rw [hmade]; rfl
    rw [errorHandlers, hbuilt.errorHandler, hshared]
  refine ⟨decl, hdecl, hhandler, fun r start w failure decided w₁ hrun => ?_⟩
  obtain ⟨renderer, hwith, hrenderer, out, d₂, w₂, hoffered, hanswer⟩ :=
    recover_answers (Contract.ne_nil_of_ownOrShared hbuilt.renderers) r decided failure w₁
  refine ⟨renderer, hwith, ?_, hrenderer, out, d₂, w₂, hhandlers ▸ hoffered, ?_⟩
  · intro earlier held hreached hheld
    have hdecided := renderer_of_reached hrun hreached hheld
    exact hwith.eq_of_held hdecided
  · rw [serve_of_failure hrun]
    cases out with
    | ok response => exact hanswer
    | error last =>
      refine ⟨?_, hanswer⟩
      rintro payload status rfl
      exact ⟨rfl, rfl⟩

/-- A world that counts, and that holds what is decided for the request that is served. -/
structure Desk where
  decisions : Decisions := {}
  count : Nat := 0

instance : Deciding (StateM Desk) where
  run code d := fun desk =>
    let (a, after) := code { desk with decisions := d }
    ((a, after.decisions), { after with decisions := desk.decisions })
  run_pure _ _ := rfl
  run_bind _ _ _ := rfl

def notice : Renderer where
  contentType := "text/plain"
  render := fun v => .ok (Text.utf8 v.render)

def stranger : AuthProvider (StateM Desk) where
  identify := fun _ => do
    modify fun desk => { desk with decisions := (desk.decisions.holdRenderer notice).2 }
    return .ok none

def porter : ErrorHandler (StateM Desk) := fun _ failure => do
  modify fun desk => { desk with count := desk.count + 1 }
  return .error (.raised (.string failure.message) .notFound)

def clerk : ErrorHandler (StateM Desk) := fun _ failure => do
  modify fun desk => { desk with count := desk.count + 1 }
  return .error failure

def vault : ControllerDecl (StateM Desk) where
  name := "Vault"
  defaults := { auth := .providers [stranger] }
  errorHandler := some clerk
  endpoints := [{
    method := "get"
    payload := {
      raw? := some { returnType := Schema.plainString }
      options := { errorHandler := some porter } }
    handler := fun _ => pure (.ok (.raw (.string "gold"))) }]

def knock : Request where
  method := "GET"
  uri := .root
  headers := .empty
  body := []

theorem vault_answered :
    ∃ c e, vault.build = .ok c ∧ ("get", e) ∈ c.endpoints ∧
      (e.run knock {}).run {} =
        ((.error (.notAuthenticated "Not authenticated"), { renderer? := some notice }), {}) ∧
      (e.serve knock).run {} = ({
        status := .notFound
        headers := ⟨[("content-type", Text.utf8 "text/plain")]⟩
        body := Text.utf8 (Json.string "Not authenticated").render }, { count := 2 }) := by
  have hserves : "get" ∈ vault.servedMethods := by decide +kernel
  obtain ⟨c, e, hbuilt, hserved⟩ := ControllerDecl.served_of_mem hserves
  obtain ⟨decl, hdecl, specs, hspecs, hcontract, hmade⟩ := ControllerDecl.made_of_build hbuilt hserved
  obtain rfl := List.mem_singleton.mp hdecl
  have hparts := Contract.build_eq_ok_iff.mp hcontract
  have hidentify : ((e.identify knock).run {}).run {} =
      ((.error (.notAuthenticated "Not authenticated"), { renderer? := some notice }), {}) := by
    rw [identify, hparts.auth]
    rfl
  have hrun := run_of_unidentified hidentify
  refine ⟨c, e, hbuilt, hserved, hrun, ?_⟩
  obtain ⟨decl, hdecl, -, hanswered⟩ := failure_answered hbuilt hserved
  obtain rfl := List.mem_singleton.mp hdecl
  obtain ⟨renderer, hwith, -, -, out, d₂, w₂, hoffered, hanswer⟩ := hanswered knock {} {} _ _ _ hrun
  obtain rfl : notice = renderer := hwith.eq_of_held rfl
  have hhanded : Offered knock [porter, clerk] (.notAuthenticated "Not authenticated")
      { renderer? := some notice } {} out d₂ w₂ := hoffered
  cases hhanded with
  | answered hporter => cases hporter
  | passed hporter hrest =>
    cases hporter
    cases hrest with
    | answered hclerk => cases hclerk
    | passed hclerk hrest =>
      cases hclerk
      cases hrest
      obtain ⟨-, response, hlast, hserve⟩ := hanswer
      rw [hserve]
      cases hlast with
      | written hbody _ =>
        cases hbody
        rfl
      | unrenderable hbody => cases hbody
      | unsendable hvalue =>
        have hsendable : Message.isHeaderValue (Text.utf8 notice.contentType) = true := by
          decide +kernel
        cases hvalue.symm.trans hsendable

end Endpoint

end Accord
