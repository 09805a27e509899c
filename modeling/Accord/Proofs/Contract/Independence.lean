import Accord.Proofs.Body
import Accord.Proofs.Contract.Accepting
import Accord.Proofs.Contract.Described
import Accord.Service.Declaration

namespace Accord

/-- Whether a body is read alike for two requests, each with the form that is kept for it. Forms with
files are not read of the body, so both requests have to have the same fields. -/
inductive BodyParser.ReadsAlike (body : Bytes) (r₁ : Request) (kept₁ : Slot Form) (r₂ : Request)
    (kept₂ : Slot Form) : BodyParser → Prop
  | json : ReadsAlike body r₁ kept₁ r₂ kept₂ .json
  | form {alsoPosted : List String}
      (carried : FormRules.carriesForm alsoPosted r₁.method =
        FormRules.carriesForm alsoPosted r₂.method ∨ Query.readPairs body = []) :
      ReadsAlike body r₁ kept₁ r₂ kept₂ (.form alsoPosted)
  | multipart {rules : FormRules}
      (fields : (rules.found r₁ kept₁).map Form.fields = (rules.found r₂ kept₂).map Form.fields) :
      ReadsAlike body r₁ kept₁ r₂ kept₂ (.multipart rules)

theorem BodyParser.ReadsAlike.value_eq {body : Bytes} {r₁ r₂ : Request} {kept₁ kept₂ : Slot Form}
    {parser : BodyParser} (h : parser.ReadsAlike body r₁ kept₁ r₂ kept₂) (s : Schema) :
    (parser.read body r₁ s kept₁).map Prod.fst = (parser.read body r₂ s kept₂).map Prod.fst := by
  cases h with
  | json =>
    rw [read_json, read_json]
    cases bodyValue body <;> rfl
  | form carried =>
    rw [read_form, read_form]
    rcases carried with hmethod | hempty
    · rw [hmethod]
      rfl
    · rw [hempty, List.map_nil, ite_self, ite_self]
      rfl
  | @multipart rules fields =>
    rw [read_multipart, read_multipart]
    cases h₁ : rules.found r₁ kept₁ with
    | error failure =>
      cases h₂ : rules.found r₂ kept₂ with
      | error failure₂ => rw [h₁, h₂] at fields; cases fields; rfl
      | ok form₂ => rw [h₁, h₂] at fields; cases fields
    | ok form =>
      cases h₂ : rules.found r₂ kept₂ with
      | error failure₂ => rw [h₁, h₂] at fields; cases fields
      | ok form₂ =>
        rw [h₁, h₂] at fields
        have hfields : form.fields = form₂.fields := Except.ok.inj fields
        simp only [Except.map, hfields]

namespace ResponseCheck

variable {m : Type → Type} {c : ResponseCheck m} {r₁ r₂ : Request} {r : Response} {d₁ d₂ : Decisions}

/-- Two requests with the same renderer get the same verdict on a response, if the parser that reads it
back reads its body alike for both. -/
theorem accept_alike (renderer : d₁.renderer? = d₂.renderer?)
    (alike : ∀ parser,
      BodyParsers.forRereading? r.contentType? d₁.renderer? c.contract.parsers = some parser →
        parser.ReadsAlike r.body r₁ d₁.form? r₂ d₂.form?) :
    ((c.accept r₁ r).run.run d₁).1 = ((c.accept r₂ r).run.run d₂).1 := by
  have hcheck : ((c.checkResponse r₁ r).run.run d₁).1 = ((c.checkResponse r₂ r).run.run d₂).1 := by
    rw [outcome_checkResponse, outcome_checkResponse, ← renderer]
    refine congrArg _ (funext fun spec => ?_)
    cases hparser : BodyParsers.forRereading? r.contentType? d₁.renderer? c.contract.parsers with
    | none => rfl
    | some parser => simp only [(alike parser hparser).value_eq spec.returnType]
  rw [outcome_accept, outcome_accept, hcheck]

def formRenderer : Renderer where
  contentType := "multipart/form-data; boundary=x"
  render := fun v => .ok (Text.utf8 ("<multipart/form-data; boundary=x>" ++ v.render))

def emptyForm : Response where
  status := .ok
  headers := Headers.empty.set "content-type" (Text.utf8 "multipart/form-data; boundary=x")
  body := Text.utf8 "--x--"

def formNotes : ControllerDecl Id := ControllerDecl.withSettings {} {
  name := "Notes"
  defaults := {
    parsers := [("multipart/form-data", .multipart {})]
    renderers := [("multipart/form-data; boundary=x", formRenderer)] }
  endpoints := [{
    method := "post"
    payload := { responses := [{ returnType := .any, status := .ok }] }
    handler := fun _ => pure (.ok (.response emptyForm)) }] }

def formEndpoint : Endpoint Id where
  name := "Notes.post"
  contract := {
    method := "post"
    responses := [{ returnType := .any, status := .ok },
      Contract.failureSpec .unprocessable
        "Raised when returned response does not match the response schema",
      Contract.failureSpec .notAcceptable
        "Raised when provided `Accept` header cannot be satisfied"]
    parsers := [("multipart/form-data", .multipart {})]
    renderers := [("multipart/form-data; boundary=x", formRenderer)] }
  handler := fun _ => pure (.ok (.response emptyForm))
  model := RequestModel.ofSpecs "Notes" [] none
  serializer := .json

theorem formNotes_built : formNotes.build = .ok ⟨"Notes", [("post", formEndpoint)]⟩ := by
  with_unfolding_all rfl

def formPosted : Request where
  method := "POST"
  uri := ⟨none, "", "/", none⟩
  headers := ⟨[("content-type", Text.utf8 "multipart/form-data; boundary=x")]⟩
  body := Text.utf8 "--x--"

def barePosted : Request where
  method := "POST"
  uri := ⟨none, "", "/", none⟩
  headers := .empty
  body := []

def bareAsked : Request := { barePosted with method := "GET" }

theorem found_formPosted : FormRules.found {} formPosted none = .ok {} := by
  have hboundary : Multipart.boundaryOf ((formPosted.header? "content-type").getD "") = .ok "x" := by
    with_unfolding_all rfl
  have hparts : Multipart.readParts (Text.utf8 "x") 100 formPosted.body = .ok [] := by
    have hcut : Multipart.cutAt? (Multipart.dashes ++ Text.utf8 "x") formPosted.body =
      some ([], [45, 45]) := by decide +kernel
    rw [Multipart.readParts, hcut]
    dsimp only
    rw [Multipart.partsAfter]
    rfl
  have hread : ({} : FormRules).readForm formPosted = .ok (Form.ofParts []) :=
    FormRules.readForm_of_parts (by decide +kernel) (by decide +kernel) hboundary hparts
  exact hread

theorem found_bareAsked : FormRules.found {} bareAsked none = .ok {} := by
  unfold FormRules.found FormRules.readForm
  rw [if_pos (by decide +kernel)]

theorem found_barePosted : FormRules.found {} barePosted none =
    .error (Failure.unsupported "failed to decode Content-Type") := by
  with_unfolding_all rfl

theorem forRereading_emptyForm : BodyParsers.forRereading? emptyForm.contentType? (some formRenderer)
    formEndpoint.check.contract.parsers = some (.multipart {}) := by
  with_unfolding_all rfl

theorem empty_forms_alike :
    ((formEndpoint.check.accept formPosted emptyForm).run.run { renderer? := some formRenderer }).1 =
      ((formEndpoint.check.accept bareAsked emptyForm).run.run
        { renderer? := some formRenderer }).1 := by
  refine accept_alike rfl fun parser hparser => ?_
  obtain rfl := Option.some.inj (forRereading_emptyForm.symm.trans hparser)
  exact .multipart (by rw [found_formPosted, found_bareAsked])

theorem accept_emptyForm :
    (formEndpoint.check.accept formPosted emptyForm).run.run { renderer? := some formRenderer } =
      (.ok emptyForm, { renderer? := some formRenderer, form? := some {} }) := by
  have hread : (BodyParser.multipart {}).read emptyForm.body formPosted .any none =
      .ok (.object [], some {}) := by
    rw [BodyParser.read_multipart, found_formPosted]
    rfl
  refine run_accept_of_verdict rfl rfl forRereading_emptyForm hread ?_
  have hheaders : checkHeaders { returnType := .any, status := .ok } emptyForm = .ok () := by
    refine checkHeaders_eq_ok_iff.mpr ⟨fun e he => (nomatch he), ?_⟩
    intro name hname hother
    have hnames : emptyForm.headers.names.map Text.lower = ["content-type"] := by decide +kernel
    rw [hnames] at hname
    exact absurd (List.mem_singleton.mp hname) hother
  have htype : formEndpoint.check.KeepsType emptyForm := by
    refine .inr ⟨_, List.mem_cons_self, ?_, ?_⟩ <;> decide +kernel
  exact verdict_eq_ok_iff.mpr ⟨by with_unfolding_all rfl, hheaders, rfl, htype⟩

/-- A form is accepted for a request with an empty form, and refused for one without a content type,
although both have the same renderer: the request is read, and not the response. -/
theorem empty_form_judged_by_request :
    formNotes.build = .ok ⟨"Notes", [("post", formEndpoint)]⟩ ∧
      (Serving.renderer formEndpoint.contract.renderers formPosted).run.run {} =
        (.ok formRenderer, { renderer? := some formRenderer }) ∧
      (Serving.renderer formEndpoint.contract.renderers barePosted).run.run {} =
        (.ok formRenderer, { renderer? := some formRenderer }) ∧
      ((formEndpoint.check.accept formPosted emptyForm).run.run
        { renderer? := some formRenderer }).1 = .ok emptyForm ∧
      ((formEndpoint.check.accept barePosted emptyForm).run.run
        { renderer? := some formRenderer }).1 =
        .error (.brokenContract
          "Response body cannot be parsed: failed to decode Content-Type" []) := by
  refine ⟨formNotes_built, ?_, ?_, ?_, ?_⟩
  · with_unfolding_all rfl
  · with_unfolding_all rfl
  · rw [accept_emptyForm]
  · have hread : (BodyParser.multipart {}).read emptyForm.body barePosted .any none =
        .error (Failure.unsupported "failed to decode Content-Type") := by
      rw [BodyParser.read_multipart, found_barePosted]
      rfl
    rw [run_accept_of_unreadable rfl rfl forRereading_emptyForm hread]
    rfl

end ResponseCheck

end Accord
