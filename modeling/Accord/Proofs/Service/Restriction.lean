import Accord.Proofs.Body
import Accord.Proofs.Contract.Accepting
import Accord.Proofs.Contract.Described
import Accord.Service.Declaration

namespace Accord

deriving instance DecidableEq for Failure

namespace ResponseCheck

variable {m : Type → Type} {c : ResponseCheck m} {request : Request} {r : Response}
  {spec : ResponseSpec} {contentType : String} {model : Schema} {v : Json} {d : Decisions}

/-- The content type by which a response is judged, if it can be read back. -/
def judged? (c : ResponseCheck m) (d : Decisions) (r : Response) : Option String :=
  (BodyParsers.forRereading? r.contentType? d.renderer? c.contract.parsers).map
    (judgedType d.renderer?)

/-- The body of a response is read back, and the value is checked against this model. -/
def CheckedAgainst (c : ResponseCheck m) (d : Decisions) (request : Request) (r : Response)
    (spec : ResponseSpec) (model : Schema) : Prop :=
  ∃ parser v form w,
    BodyParsers.forRereading? r.contentType? d.renderer? c.contract.parsers = some parser ∧
      parser.read r.body request spec.returnType d.form? = .ok (v, form) ∧
      modelFor spec.returnType (judgedType d.renderer? parser) = .ok model ∧
      c.serializer.check v model (some c.strict) = .ok w

/-- The content type is one of those to which a response is limited, and the model is one that is
declared for it, where the type depends on it. -/
structure Permits (spec : ResponseSpec) (contentType : String) (model : Schema) : Prop where
  listed : ∀ allowed, spec.limitToContentTypes = some allowed → ∃ limit ∈ allowed,
    (MediaType.read limit).essence = (MediaType.read contentType).essence
  member : ∀ mapping, spec.returnType.mapping? = some mapping → ∃ e ∈ mapping,
    (MediaType.read e.1).essence = (MediaType.read contentType).essence ∧ e.2 = model

theorem Permits.congr {other : String} (permits : Permits spec contentType model)
    (h : (MediaType.read contentType).essence = (MediaType.read other).essence) :
    Permits spec other model :=
  ⟨h ▸ permits.listed, h ▸ permits.member⟩

theorem permits_of_models (listed : Listed spec contentType)
    (models : Models contentType spec.returnType model) : Permits spec contentType model where
  listed := listed
  member := by
    intro mapping hmapping
    cases models with
    | whole hnone => exact nomatch hnone.symm.trans hmapping
    | member hmember hown _ =>
      obtain rfl := Option.some.inj (hmember.symm.trans hmapping)
      exact ⟨_, List.mem_append_right _ List.mem_cons_self, hown, rfl⟩

theorem permits_of_checkBody (h : c.checkBody spec contentType v = .ok ()) :
    ∃ model w, modelFor spec.returnType contentType = .ok model ∧
      c.serializer.check v model (some c.strict) = .ok w ∧ Permits spec contentType model := by
  obtain ⟨hlisted, model, w, models, hcheck⟩ := checkBody_eq_ok_iff.mp h
  exact ⟨model, w, modelFor_eq_ok_iff.mpr models, hcheck, permits_of_models hlisted models⟩

theorem permits_of_accept (checked : c.contract.validateResponses = true)
    (h : ((c.accept request r).run.run d).1 = .ok r) :
    ∃ spec judged model, c.contract.responses.find? r.status = some spec ∧
      c.judged? d r = some judged ∧ c.CheckedAgainst d request r spec model ∧
      Permits spec judged model := by
  obtain ⟨spec, parser, v, form, hspec, hparser, hread, hverdict⟩ := verdict_of_accept checked h
  obtain ⟨⟨⟩, hbody, -⟩ := ok_of_bind hverdict
  obtain ⟨model, w, hmodel, hcheck, permits⟩ := permits_of_checkBody hbody
  refine ⟨spec, judgedType d.renderer? parser, model, hspec, ?_,
    ⟨parser, v, form, w, hparser, hread, hmodel, hcheck⟩, permits⟩
  rw [judged?, hparser, Option.map_some]

/-- A response that is accepted is permitted for its own content type, if this has the essence of the
content type by which it is judged. -/
theorem permits_own_type (checked : c.contract.validateResponses = true)
    (sameType : ∀ judged own, c.judged? d r = some judged → r.contentType? = some own →
      (MediaType.read judged).essence = (MediaType.read own).essence)
    (accepted : ((c.accept request r).run.run d).1 = .ok r) :
    ∃ spec model, c.contract.responses.find? r.status = some spec ∧
      c.CheckedAgainst d request r spec model ∧
      ∀ own, r.contentType? = some own → Permits spec own model := by
  obtain ⟨spec, judged, model, hspec, hjudged, hchecked, permits⟩ :=
    permits_of_accept checked accepted
  exact ⟨spec, model, hspec, hchecked, fun own hown => permits.congr (sameType judged own hjudged hown)⟩

def plainRenderer : Renderer where
  contentType := "text/plain"
  render := fun v => .ok (Text.utf8 v.render)

def limitedNote (contentType : String) : Response where
  status := .ok
  headers := Headers.empty.set "content-type" (Text.utf8 contentType)
  body := Text.utf8 "1"

def limitedSpec : ResponseSpec where
  returnType := .any
  status := .ok
  limitToContentTypes := some ["application/json"]

def limitedNotes : ControllerDecl Id := ControllerDecl.withSettings {} {
  name := "Notes"
  defaults := { renderers := [("application/json", .json), ("text/plain", plainRenderer)] }
  endpoints := [{
    method := "get"
    payload := { responses := [limitedSpec] }
    handler := fun _ => pure (.ok (.response (limitedNote "text/plain"))) }] }

def limitedEndpoint : Endpoint Id where
  name := "Notes.get"
  contract := {
    method := "get"
    responses := [limitedSpec,
      Contract.failureSpec .unprocessable
        "Raised when returned response does not match the response schema",
      Contract.failureSpec .notAcceptable
        "Raised when provided `Accept` header cannot be satisfied"]
    parsers := [("application/json", .json)]
    renderers := [("application/json", .json), ("text/plain", plainRenderer)] }
  handler := fun _ => pure (.ok (.response (limitedNote "text/plain")))
  model := RequestModel.ofSpecs "Notes" [] none
  serializer := .json

theorem limitedNotes_built : limitedNotes.build = .ok ⟨"Notes", [("get", limitedEndpoint)]⟩ := by
  with_unfolding_all rfl

def noteAsked : Request where
  method := "GET"
  uri := ⟨none, "", "/", none⟩
  headers := .empty
  body := []

theorem limitedNote_accepted {key own : String}
    (carried : (limitedNote own).contentType? = some own)
    (registered : key ∈ limitedEndpoint.contract.renderers.names)
    (hwanted : Binary64.zero < (MediaType.read key).quality)
    (hfits : (MediaType.read key).fitsText own = true) :
    (limitedEndpoint.check.accept noteAsked (limitedNote own)).run.run { renderer? := some .json } =
      (.ok (limitedNote own), { renderer? := some .json }) := by
  have hread : BodyParser.json.read (Text.utf8 "1") noteAsked .any none = .ok (.int 1, none) := by
    have hvalue : bodyValue (Text.utf8 "1") = .ok (.int 1) := by decide +kernel
    rw [BodyParser.read_json, hvalue]
  have hbody : limitedEndpoint.check.checkBody limitedSpec "application/json" (.int 1) = .ok () := by
    decide +kernel
  have hheaders : checkHeaders limitedSpec (limitedNote own) = .ok () := by
    have hnames : (limitedNote own).headers.names = ["content-type"] := rfl
    unfold checkHeaders
    rw [hnames]
    decide +kernel
  have htype : limitedEndpoint.check.KeepsType (limitedNote own) := by
    refine .inr ⟨key, registered, hwanted, ?_⟩
    rw [carried]
    exact hfits
  exact run_accept_of_verdict rfl rfl rfl hread (verdict_eq_ok_iff.mpr ⟨hbody, hheaders, rfl, htype⟩)

theorem json_note_permitted : ∃ spec model,
    limitedEndpoint.contract.responses.find? .ok = some spec ∧
      Permits spec "Application/JSON" model := by
  have hown : (limitedNote "Application/JSON").contentType? = some "Application/JSON" := by
    decide +kernel
  have haccepted := limitedNote_accepted hown List.mem_cons_self (by decide +kernel)
    (by decide +kernel)
  have hsame : (MediaType.read "application/json").essence =
      (MediaType.read "Application/JSON").essence := by decide +kernel
  have hjudged : ∀ judged own, limitedEndpoint.check.judged? { renderer? := some .json }
      (limitedNote "Application/JSON") = some judged →
      (limitedNote "Application/JSON").contentType? = some own →
        (MediaType.read judged).essence = (MediaType.read own).essence := by
    intro judged own hjudged hcarried
    cases hjudged
    cases hown.symm.trans hcarried
    exact hsame
  obtain ⟨spec, model, hspec, -, hpermits⟩ :=
    permits_own_type rfl hjudged (congrArg Prod.fst haccepted)
  exact ⟨spec, model, hspec, hpermits _ hown⟩

/-- A note in plain text is accepted and sent for a request whose renderer writes JSON, although plain
text is not what the response is limited to. -/
theorem plain_note_not_permitted :
    limitedNotes.build = .ok ⟨"Notes", [("get", limitedEndpoint)]⟩ ∧
      limitedEndpoint.contract.validateResponses = true ∧
      (limitedEndpoint.check.accept noteAsked (limitedNote "text/plain")).run.run
        { renderer? := some .json } = (.ok (limitedNote "text/plain"), { renderer? := some .json }) ∧
      limitedEndpoint.serve noteAsked = pure (limitedNote "text/plain") ∧
      (limitedNote "text/plain").contentType? = some "text/plain" ∧
      ∃ spec, limitedEndpoint.contract.responses.find? .ok = some spec ∧
        ∀ model, ¬Permits spec "text/plain" model := by
  have hown : (limitedNote "text/plain").contentType? = some "text/plain" := by decide +kernel
  have haccepted := limitedNote_accepted hown (List.mem_cons_of_mem _ List.mem_cons_self)
    (by decide +kernel) (by decide +kernel)
  refine ⟨limitedNotes_built, rfl, haccepted, ?_, hown, limitedSpec, rfl, fun model permits => ?_⟩
  · have hrespond :
        (limitedEndpoint.respond noteAsked (.response (limitedNote "text/plain"))).run.run {} =
          (.ok (limitedNote "text/plain"), { renderer? := some .json }) := by
      unfold Endpoint.respond
      rw [Serving.run_bind, Serving.run_rendererStep]
      exact haccepted
    have hrun : limitedEndpoint.run noteAsked {} =
        pure (.ok (limitedNote "text/plain"), { renderer? := some .json }) := hrespond
    rw [Endpoint.serve, hrun]
    rfl
  · have hother : ∀ limit ∈ ["application/json"],
        (MediaType.read limit).essence ≠ (MediaType.read "text/plain").essence := by decide +kernel
    obtain ⟨limit, hlimit, hsame⟩ := permits.listed _ rfl
    exact hother limit hlimit hsame

end ResponseCheck

end Accord
