import Accord.Proofs.Body
import Accord.Proofs.Component.CombinedCheck
import Accord.Proofs.Contract.Described
import Accord.Proofs.Json.Identity
import Accord.Proofs.Negotiation.Excluding
import Accord.Proofs.Schema.FixedPoint
import Accord.Proofs.Schema.Patterns
import Accord.Proofs.Service.Building

namespace Accord

open Schema

def echo {m : Type → Type} [Monad m] (s : Schema) : ControllerDecl m := ControllerDecl.withSettings {} {
  name := "Echo"
  bases := [⟨"Body", [.concrete s]⟩]
  endpoints := [{
    method := "post"
    payload := { raw? := some { returnType := s } }
    handler := fun input => pure ((input.components.data .body).map .raw) }] }

def echoAnswer (s : Schema) (body : Bytes) : Response :=
  match bodyValue body with
  | .error message =>
    Response.json .badRequest (Failure.listing [⟨message, none, "value_error"⟩])
  | .ok v =>
    match s.validate v none with
    | .error details =>
      Response.json .badRequest
        (Failure.listing (details.map (Detail.under [.key "parsed_body"])))
    | .ok w => Response.json .created w

theorem echoAnswer_status (s : Schema) (body : Bytes) :
    (echoAnswer s body).status = .badRequest ∨ (echoAnswer s body).status = .created := by
  unfold echoAnswer
  split
  · exact Or.inl rfl
  · split
    · exact Or.inl rfl
    · exact Or.inr rfl

variable {m : Type → Type} [Monad m] {s : Schema} {r : Request}

def echoedBody (s : Schema) : ComponentSpec := ⟨.body, [s]⟩

theorem echo_components (s : Schema) :
    (echo s : ControllerDecl m).components = .ok [echoedBody s] := by
  with_unfolding_all rfl

def echoContract (s : Schema) : Contract m where
  method := "post"
  responses := [{ returnType := s, status := .created }] ++
    [Contract.failureSpec .badRequest "Raised when request components cannot be parsed",
      Contract.failureSpec .unprocessable
        "Raised when returned response does not match the response schema",
      Contract.failureSpec .notAcceptable "Raised when provided `Accept` header cannot be satisfied"]
  modification := some { returnType := s, status := .created }
  components := [echoedBody s]
  parsers := [("application/json", .json)]
  renderers := [("application/json", .json)]

def echoEndpoint (s : Schema) : Endpoint m where
  name := "Echo.post"
  contract := echoContract s
  handler := fun input => pure ((input.components.data .body).map .raw)
  model := RequestModel.ofSpecs "Echo" [echoedBody s] none
  serializer := .json

theorem echo_contract (patterns : s.PatternsCompile) :
    Contract.build "Echo.post" { raw? := some { returnType := s } }
      (echo s : ControllerDecl m).allDefaults [echoedBody s] "post" = .ok (echoContract s) := by
  have hdefinition := checkDefinition_eq_ok_iff.mpr patterns
  have hmodification : Contract.modificationOf "Echo.post" "post"
      ({ raw? := some { returnType := s } } : Payload m) (echo s).allDefaults =
      .ok (some { returnType := s, status := .created }) := rfl
  refine Contract.build_eq_ok_iff.mpr {
    method := rfl
    modification := hmodification
    parsers := rfl
    renderers := rfl
    responses := ?_
    requestBody := rfl
    checked := ?_
    parts := rfl }
  · have hdefinitions : (echoContract s : Contract m).responses.forM
        (fun spec => spec.returnType.checkDefinition) = .ok () := bind_of_ok hdefinition _
    refine (bind_of_ok (a := ()) rfl _).trans ((bind_of_ok hdefinitions _).trans ?_)
    rfl
  · have hargs : [s].forM checkDefinition = .ok () := bind_of_ok hdefinition _
    exact bind_of_ok hargs _

theorem echo_built (patterns : s.PatternsCompile) :
    (echo s : ControllerDecl m).build = .ok ⟨"Echo", [("post", echoEndpoint s)]⟩ := by
  refine (bind_of_ok (echo_components s) _).trans ?_
  have hendpoint : (echo s : ControllerDecl m).addEndpoint [echoedBody s] [] {
      method := "post"
      payload := { raw? := some { returnType := s } }
      handler := fun input => pure ((input.components.data .body).map .raw) } =
      .ok [("post", echoEndpoint s)] := bind_of_ok (echo_contract patterns) _
  refine (bind_of_ok (x := (echo s).allEndpoints.foldlM _ []) (bind_of_ok hendpoint _) _).trans ?_
  rfl

theorem parsers_choose_json
    (h : r.contentType? = none ∨ r.contentType? = some "application/json") :
    BodyParsers.choose [("application/json", .json)] r = .ok .json := by
  rcases h with h | h <;> simp only [BodyParsers.choose, h] <;> rfl

theorem renderers_choose_json (h : r.accept? = none ∨
      ∃ range ∈ r.acceptedTypes, (MediaType.read "application/json").fits range = true) :
    Renderers.choose [("application/json", .json)] r = .ok .json := by
  have acceptable : r.accept? = none ∨ ∃ range ∈ r.acceptedTypes,
      ∃ key ∈ Named.names [("application/json", Renderer.json)],
        (MediaType.read key).fits range = true :=
    h.imp_right fun ⟨range, hrange, hfits⟩ => ⟨range, hrange, _, List.mem_singleton_self _, hfits⟩
  obtain ⟨renderer, hchoose⟩ := Renderers.exists_choose (List.cons_ne_nil _ _) acceptable
  obtain ⟨key, -, hlookup⟩ := Renderers.choose_eq_ok_iff.mp hchoose
  obtain ⟨-, rfl⟩ := Prod.mk.inj (List.mem_singleton.mp (Named.mem_of_lookup hlookup))
  exact hchoose

theorem mapping_of_choiceFree (h : s.ChoiceFree) : s.mapping? = none := by
  cases s with
  | conditional mapping => exact absurd trivial h.here
  | _ => rfl

theorem effectiveModel_echoedBody (h : s.ChoiceFree) (contentType : Option String) :
    (echoedBody s).effectiveModel contentType = s := by
  have hnone : (echoedBody s).conditionalTypes = [] := by
    change s.mapping?.getD [] = []
    rw [mapping_of_choiceFree h, Option.getD_none]
  simp only [ComponentSpec.effectiveModel, ComponentSpec.conditionalModel?, hnone, List.reverse_nil,
    List.find?_nil, Option.map_none]
  cases contentType <;> rfl

theorem take_echoedBody {parsers : BodyParsers} (hparser : parsers.choose r = .ok .json) :
    (echoedBody s).take parsers r {} =
      ((bodyValue r.body).mapError .unsupported, { parser? := some .json }) := by
  change (Component.bodyData parsers r s).run.run {} = _
  unfold Component.bodyData
  rw [Serving.run_bind, Serving.run_parserStep]
  simp only [hparser]
  rw [Serving.run_adapt, Serving.run_withForm, BodyParser.read_json]
  cases bodyValue r.body <;> rfl

theorem parse_single {spec : ComponentSpec} {parsers : BodyParsers} {data : Json}
    {d d₁ : Decisions} (blueprint : String) (strict : Option Bool)
    (inhabited : ChoicesInhabited (spec.effectiveModel r.contentType?))
    (htake : spec.take parsers r d = (.ok data, d₁)) :
    match spec.verdict r.contentType? strict data with
    | .error details =>
      ((RequestModel.ofSpecs blueprint [spec] strict).parse parsers .json r).run.run d =
        (.error (.invalid (details.map (Detail.under [.key spec.contextName])) .badRequest), d₁)
    | .ok w => ∃ p : ParsedComponents,
      ((RequestModel.ofSpecs blueprint [spec] strict).parse parsers .json r).run.run d =
        (.ok p, d₁) ∧ p.values.lookup spec.contextName = some w := by
  have htaken : Taken parsers r d [(spec, data)] d₁ := .cons htake .nil
  have distinct : (([(spec, data)].map Prod.fst).map ComponentSpec.contextName).Nodup :=
    List.nodup_singleton _
  have hinhabited : ∀ e ∈ [(spec, data)], ChoicesInhabited (e.1.effectiveModel r.contentType?) :=
    fun e he => List.mem_singleton.mp he ▸ inhabited
  have hparse :
      ((RequestModel.ofSpecs blueprint [spec] strict).parse parsers .json r).run.run d = _ :=
    RequestModel.parse_components blueprint distinct htaken
  rw [RequestModel.check_components blueprint r distinct, List.flatMap_singleton] at hparse
  cases hverdict : spec.verdict r.contentType? strict data with
  | error details =>
    have hdetails : spec.details r.contentType? strict data =
        details.map (Detail.under [.key spec.contextName]) := by
      rw [ComponentSpec.details, hverdict]
    have hsome : details ≠ [] := ne_nil_of_validate_error hverdict
    simp only [hdetails, List.map_eq_nil_iff, hsome, if_false] at hparse
    exact hparse
  | ok w =>
    have hdetails : spec.details r.contentType? strict data = [] := by
      rw [ComponentSpec.details, hverdict]
    simp only [hdetails, if_true] at hparse
    refine ⟨_, hparse, ?_⟩
    exact (RequestModel.lookup_fieldOutputs_components distinct hinhabited).mpr
      ⟨_, List.mem_singleton.mpr rfl, rfl, hverdict⟩

theorem toResponse_json {status : Status} (hbody : status.isBodyless = false) (v : Json) :
    (⟨v, status, [("Content-Type", "application/json")], none, .json⟩ : RawAnswer).toResponse =
      .ok (Response.json status v) := by
  have hname : Message.headerName? "Content-Type" = some "content-type" := rfl
  have hvalue : Message.isHeaderValue (Text.utf8 "application/json") = true := by decide +kernel
  simp only [RawAnswer.toResponse, hbody, Bool.false_and, Bool.false_eq_true, if_false,
    Renderer.json, List.foldlM_cons, List.foldlM_nil, Response.withHeader, hname, hvalue, if_true,
    Option.getD_none, List.foldl_nil]
  rfl

theorem answer_json (failure : Failure) :
    failure.answer (some .json) = .ok (Response.json failure.status failure.envelope) := by
  have hname : Message.headerName? "Content-Type" = some "content-type" := rfl
  have hvalue : Message.isHeaderValue (Text.utf8 "application/json") = true := by decide +kernel
  simp only [Failure.answer, Renderer.json, Response.withHeader, hname, hvalue, if_true]
  rfl

theorem acceptRaw_validated {w : Json} {d : Decisions} (choiceFree : s.ChoiceFree)
    (hvalid : s.validate w (some true) = .ok w) (hrenderer : d.renderer? = some .json) :
    ((echoEndpoint s : Endpoint m).check.acceptRaw w).run.run d =
      (.ok ⟨w, .created, [("Content-Type", "application/json")], none, .json⟩, d) := by
  have hbody : (echoEndpoint s : Endpoint m).check.checkBody { returnType := s, status := .created }
      Renderer.json.contentType w = .ok () :=
    ResponseCheck.checkBody_eq_ok_iff.mpr
      ⟨fun _ h => (nomatch h), s, w, .whole (mapping_of_choiceFree choiceFree), hvalid⟩
  have hmodification : (echoEndpoint s : Endpoint m).check.contract.modification =
      some { returnType := s, status := .created } := rfl
  rw [ResponseCheck.run_acceptRaw hmodification hrenderer]
  refine congrArg (·, d) ?_
  exact bind_of_ok hbody _

theorem respond_validated {w : Json} (choiceFree : s.ChoiceFree)
    (hvalid : s.validate w (some true) = .ok w)
    (hrenderer : Renderers.choose [("application/json", .json)] r = .ok .json) (d : Decisions)
    (hfresh : d.renderer? = none) :
    (((echoEndpoint s : Endpoint m).respond r (.raw w)).run.run d).1 =
      .ok (Response.json .created w) := by
  have hchoose : (echoEndpoint s : Endpoint m).contract.renderers.choose r = .ok .json := hrenderer
  unfold Endpoint.respond
  rw [Serving.run_bind, Serving.run_rendererStep]
  simp only [hfresh, hchoose]
  rw [Serving.run_bind_of_ok (acceptRaw_validated choiceFree hvalid rfl), Serving.run_liftM]
  have hstatus : Status.created.isBodyless = false := rfl
  exact toResponse_json hstatus w

section Serving

variable [LawfulMonad m] [Deciding m]

theorem serve_refused {failure : Failure} {d : Decisions}
    (hrenderer : Renderers.choose [("application/json", .json)] r = .ok .json)
    (hparse : ((echoEndpoint s : Endpoint m).parse r).run.run {} = (.error failure, d))
    (hfresh : d.renderer? = none) :
    (echoEndpoint s : Endpoint m).serve r =
      pure (Response.json failure.status failure.envelope) := by
  have hidentify : ((echoEndpoint s : Endpoint m).identify r).run {} = pure (.ok none, {}) := rfl
  have hrun : (echoEndpoint s : Endpoint m).run r {} = pure (.error failure, d) := by
    rw [Endpoint.run, hidentify, pure_bind]
    simp only [hparse]
  have hchoose : (echoEndpoint s : Endpoint m).contract.renderers.choose r = .ok .json := hrenderer
  have hchosen : ((echoEndpoint s : Endpoint m).decideRenderer r d).renderer? = some .json := by
    unfold Endpoint.decideRenderer
    rw [Serving.run_rendererStep]
    simp only [hfresh, hchoose]
  rw [Endpoint.serve, hrun, pure_bind]
  dsimp only
  rw [Endpoint.recover_of_unhandled rfl, hchosen, answer_json]

theorem serve_validated {p : ParsedComponents} {w : Json} {d : Decisions}
    (choiceFree : s.ChoiceFree) (hvalid : s.validate w (some true) = .ok w)
    (hrenderer : Renderers.choose [("application/json", .json)] r = .ok .json)
    (hparse : ((echoEndpoint s : Endpoint m).parse r).run.run {} = (.ok p, d))
    (hdata : p.data .body = .ok w) (hfresh : d.renderer? = none) :
    (echoEndpoint s : Endpoint m).serve r = pure (Response.json .created w) := by
  have hidentify : ((echoEndpoint s : Endpoint m).identify r).run {} = pure (.ok none, {}) := rfl
  have hhandler : (echoEndpoint s : Endpoint m).handler ⟨r, p, none⟩ = pure (.ok (.raw w)) := by
    change pure ((p.data .body).map HandlerOutput.raw) = _
    rw [hdata]
    rfl
  have hresponse := respond_validated (m := m) choiceFree hvalid hrenderer d hfresh
  rcases hrespond : ((echoEndpoint s : Endpoint m).respond r (.raw w)).run.run d with ⟨out, d₁⟩
  rw [hrespond] at hresponse
  have hrun : (echoEndpoint s : Endpoint m).run r {} = pure (.ok (Response.json .created w), d₁) := by
    rw [Endpoint.run, hidentify, pure_bind]
    simp only [hparse]
    rw [Endpoint.handle_of_pure hhandler, StateT.run_pure, pure_bind]
    simp only [hrespond]
    rw [show out = _ from hresponse]
  rw [Endpoint.serve, hrun, pure_bind]

/-- An echo never breaks its contract. Where nothing in a schema is chosen by trial, its fields keep
apart, its patterns compile and its fallbacks pass a strict check as they are, a body of JSON that is
posted is answered with what the schema makes of it, and is refused otherwise, for what is wrong with
it as a body and nothing else. -/
theorem echo_answers (settling : s.Settling) (patterns : s.PatternsCompile) :
    ∃ c, (echo s : ControllerDecl m).build = .ok c ∧
      ∀ r : Request, Text.asciiLower r.method = "post" →
        (r.contentType? = none ∨ r.contentType? = some "application/json") →
        (r.accept? = none ∨
          ∃ range ∈ r.acceptedTypes, (MediaType.read "application/json").fits range = true) →
        c.dispatch r = pure (echoAnswer s r.body) ∧
          ((echoAnswer s r.body).status = .badRequest ∨
            (echoAnswer s r.body).status = .created) := by
  refine ⟨_, echo_built patterns, fun r hmethod hcontent haccept => ?_⟩
  have hendpoint : (⟨"Echo", [("post", echoEndpoint s)]⟩ : Controller m).endpointFor? r =
      some (echoEndpoint s) := by
    rw [Controller.endpointFor?, hmethod]
    rfl
  have hparser := parsers_choose_json hcontent
  have hrenderer := renderers_choose_json haccept
  refine ⟨?_, echoAnswer_status s r.body⟩
  rw [Controller.dispatch, hendpoint]
  dsimp only
  have htake := take_echoedBody (s := s) hparser
  cases hbody : bodyValue r.body with
  | error message =>
    rw [hbody] at htake
    have hspecs : (RequestModel.ofSpecs "Echo" [echoedBody s] none).specs =
        ([] : List (ComponentSpec × Json)).map Prod.fst ++ [echoedBody s] := rfl
    have hparse := RequestModel.parse_of_first_failure hspecs .nil htake .json
    rw [echoAnswer, hbody]
    exact serve_refused hrenderer hparse rfl
  | ok v =>
    rw [hbody] at htake
    have hmodel := effectiveModel_echoedBody settling.choiceFree r.contentType?
    have inhabited := choicesInhabited_of_choiceFree settling.choiceFree
    rw [← hmodel] at inhabited
    have hparse := parse_single "Echo" none inhabited htake
    rw [ComponentSpec.verdict, hmodel] at hparse
    cases hvalid : s.validate v none with
    | error details =>
      rw [hvalid] at hparse
      simp only [echoAnswer, hbody, hvalid]
      exact serve_refused hrenderer hparse rfl
    | ok w =>
      rw [hvalid] at hparse
      obtain ⟨p, hparse, hlookup⟩ := hparse
      have hdata : p.data .body = .ok w := by
        have hname : p.values.lookup Component.body.contextName = some w := hlookup
        simp only [ParsedComponents.data, ParsedComponents.typed, hname]
      have hagain := validate_validated settling (some true) hvalid
      simp only [echoAnswer, hbody, hvalid]
      exact serve_validated settling.choiceFree hagain hrenderer hparse hdata rfl

end Serving

def noteForm : Schema := .object {
  name := "Note"
  fields := [
    ("title", { schema := .string (some 1) none (some "^[a-z]+$"), alias? := some "t" }),
    ("stars", { schema := .integer (some 1) (some 5) }),
    ("tags", { schema := listOf plainString, required := false, fallback := some (.array []) })] }

theorem noteForm_settling : noteForm.Settling where
  choiceFree := by simp [ChoiceFree, noteForm, IsChoice, listOf, plainString]
  fields := by
    have hapart : OwnFieldsApart noteForm := ⟨by decide, by simp⟩
    simpa [noteForm, OwnFieldsApart, listOf, plainString] using hapart
  fallbacks := by
    have hsettled : OwnFallbacksSettled noteForm := by
      intro e he v hv
      simp only [List.mem_cons, List.not_mem_nil, or_false] at he
      obtain rfl | rfl | rfl := he <;> cases hv
      rfl
    simpa [noteForm, OwnFallbacksSettled, listOf, plainString] using hsettled

theorem noteForm_patternsCompile : noteForm.PatternsCompile := by decide +kernel

def notePosted : Request where
  method := "POST"
  uri := ⟨none, "", "/notes", none⟩
  headers := .empty
  body := Text.utf8 "\x7b\"t\": \"lean\", \"stars\": \"4\"\x7d"

def noteStored : Json := .object [("stars", .int 4), ("tags", .array []), ("title", .string "lean")]

theorem echoAnswer_notePosted :
    echoAnswer noteForm notePosted.body = Response.json .created noteStored := by
  have hread : Json.read notePosted.body =
      .ok (.object [("stars", .string "4"), ("t", .string "lean")]) := by decide +kernel
  have hvalid : noteForm.validate (.object [("stars", .string "4"), ("t", .string "lean")]) none =
      .ok noteStored := by decide +kernel
  simp only [echoAnswer, bodyValue, hread, hvalid]

theorem note_echoed : ∃ c, (echo noteForm : ControllerDecl Id).build = .ok c ∧
    c.dispatch notePosted = pure (Response.json .created noteStored) := by
  obtain ⟨c, hbuild, hanswers⟩ :=
    echo_answers (m := Id) noteForm_settling noteForm_patternsCompile
  have hmethod : Text.asciiLower notePosted.method = "post" := by decide +kernel
  refine ⟨c, hbuild, ?_⟩
  rw [← echoAnswer_notePosted]
  exact (hanswers notePosted hmethod (Or.inl rfl) (Or.inl rfl)).1

end Accord
