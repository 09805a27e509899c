import Accord.Proofs.Body
import Accord.Proofs.Contract.Accepting
import Accord.Proofs.Contract.Described
import Accord.Proofs.Contract.Specs
import Accord.Proofs.Negotiation.Choosing
import Accord.Proofs.Service.Building
import Accord.Proofs.Service.Recovery
import Accord.Proofs.Text

namespace Accord

namespace Contract

def servedMethod (name : String) : String := if name = "meta" then "options" else name

theorem eq_servedMethod {name method : String} {allowed : Bool}
    (h : methodOfName name allowed = .ok method) : method = servedMethod name := by
  unfold methodOfName at h
  split at h
  · next hmeta =>
    cases h
    rw [servedMethod, if_pos (eq_of_beq (Bool.and_eq_true_iff.mp hmeta).2)]
  · next hother =>
    split at h
    · next hlower =>
      cases h
      refine (if_neg fun hmeta => hother ?_).symm
      obtain ⟨hlower, -⟩ := Bool.and_eq_true_iff.mp hlower
      rw [hlower, hmeta]
      rfl
    · cases h

theorem eq_shared_of_ownOrShared {α : Type} {endpoint kind : String} {shared chosen : Named α}
    (h : ownOrShared endpoint kind none shared = .ok chosen) : chosen = shared := by
  simp only [ownOrShared] at h
  split at h
  · cases h
  · cases h
    rfl

end Contract

open Contract (servedMethod)

variable {m : Type → Type}

namespace ControllerDecl

variable {d : ControllerDecl m} {specs : List ComponentSpec}

theorem method_of_registers {decl : EndpointDecl m} {entry : String × Endpoint m}
    (h : d.Registers specs decl entry) : entry.1 = servedMethod decl.method :=
  h.method.trans (Contract.eq_servedMethod (Contract.build_eq_ok_iff.mp h.contract).method)

theorem names_of_registers {decls : List (EndpointDecl m)} {endpoints : Named (Endpoint m)}
    (h : List.Forall₂ (d.Registers specs) decls endpoints) :
    endpoints.names = decls.map fun decl => servedMethod decl.method := by
  induction h with
  | nil => rfl
  | cons hregisters _ ih => exact congrArg₂ List.cons (method_of_registers hregisters) ih

def listedNames (d : ControllerDecl m) : List String := d.endpoints.map EndpointDecl.method ++ ["meta"]

def listed (d : ControllerDecl m) : List String := listedMethods d.listedNames

def listingEndpoint [Monad m] (d : ControllerDecl m) (specs : List ComponentSpec)
    (contract : Contract m) : Endpoint m := d.endpointOf specs (listing d.listedNames) contract

theorem listing_of_build [Monad m] {c : Controller m} (built : d.build = .ok c)
    (lists : d.listsMethods = true) :
    ∃ (specs : List ComponentSpec) (contract : Contract m), d.components = .ok specs ∧
      Contract.Built (d.name ++ "." ++ "meta") (listing (m := m) d.listedNames).payload
        d.allDefaults specs "meta" contract ∧
      c.endpoints.names = d.listedNames.map servedMethod ∧
      c.endpoints.lookup "options" = some (d.listingEndpoint specs contract) := by
  obtain ⟨distinct, specs, hspecs, hregisters⟩ := registers_of_build built
  have hall : d.allEndpoints = d.endpoints ++ [listing d.listedNames] := if_pos lists
  have hnames : c.endpoints.names = d.listedNames.map servedMethod := by
    rw [names_of_registers hregisters, hall, listedNames, List.map_append, List.map_append,
      List.map_map]
    rfl
  have hlast : listing d.listedNames ∈ d.allEndpoints :=
    hall ▸ List.mem_append_right _ (List.mem_singleton_self _)
  obtain ⟨⟨method, e⟩, hentry, hmade⟩ :=
    exists_of_forall₂ (List.Forall₂.flip (R := flip (d.Registers specs)) hregisters) hlast
  obtain rfl : method = "options" := method_of_registers hmade
  refine ⟨specs, e.contract, hspecs, Contract.build_eq_ok_iff.mp hmade.contract, hnames, ?_⟩
  rw [(Named.lookup_iff_mem distinct).mpr hentry]
  exact congrArg some hmade.endpoint

theorem mem_listed {c : Controller m} (h : c.endpoints.names = d.listedNames.map servedMethod)
    {method : String} : method ∈ d.listed ↔ method ∈ c.allowedMethods := by
  have hupper : ∀ name, (if name = "meta" then "OPTIONS" else Text.asciiUpper name) =
      Text.asciiUpper (servedMethod name) := by
    intro name
    unfold servedMethod
    split
    · decide +kernel
    · rfl
  rw [listed, listedMethods, Text.mem_sortedSet, Controller.allowedMethods, h, List.map_map,
    funext hupper]
  rfl

end ControllerDecl

def listingAnswer (methods : List String) : Response where
  status := .noContent
  headers := ⟨[("allow", Text.utf8 (Text.join ", " methods))]⟩

def Listable (methods : List String) : Prop :=
  Message.isHeaderValue (Text.utf8 (Text.join ", " methods)) = true

instance (methods : List String) : Decidable (Listable methods) :=
  inferInstanceAs (Decidable (_ = true))

theorem handler_listing [Monad m] (names : List String) (input : HandlerInput) :
    (ControllerDecl.listing (m := m) names).handler input = pure
      (if Listable (ControllerDecl.listedMethods names) then
        .ok (.response (listingAnswer (ControllerDecl.listedMethods names)))
      else .error (.internal "Invalid header value")) := by
  have hname : Message.headerName? "allow" = some "allow" := rfl
  refine congrArg pure ?_
  by_cases writable : Listable (ControllerDecl.listedMethods names)
  · rw [if_pos writable]
    unfold Listable at writable
    simp only [Response.withHeader, hname, writable, if_true]
    rfl
  · rw [if_neg writable]
    unfold Listable at writable
    simp only [Response.withHeader, hname, writable]
    rfl

def listingSpec : ResponseSpec where
  returnType := .null
  status := .noContent
  headers := some [("Allow", {})]

theorem Contract.Built.find?_listing [Monad m] {endpoint : String} {names : List String}
    {defaults : EndpointDefaults m} {specs : List ComponentSpec} {contract : Contract m}
    (built : Contract.Built endpoint (ControllerDecl.listing (m := m) names).payload defaults specs
      "meta" contract) : contract.responses.find? .noContent = some listingSpec := by
  have hmodification : contract.modification = none := by
    have h := built.modification
    have hsome : (defaults.responses.isEmpty &&
        (ControllerDecl.listing (m := m) names).payload.responses.isEmpty) = false :=
      Bool.and_false _
    have hraw : (ControllerDecl.listing (m := m) names).payload.raw? = none := rfl
    simp only [modificationOf, hraw, hsome, Bool.false_eq_true, if_false] at h
    exact (Except.ok.inj h).symm
  have hdeclared : contract.declaredSpecs (ControllerDecl.listing (m := m) names).payload defaults =
      defaults.responses ++ [listingSpec] := by
    rw [declaredSpecs, hmodification]
    exact List.append_nil _
  rw [responses_of_checkSpecs built.responses]
  refine find?_allSpecs_of_declared ?_
  rw [ResponseSpecs.find?_ofList, hdeclared, List.reverse_append, List.reverse_singleton,
    List.singleton_append, ResponseSpecs.find?_cons]
  exact if_pos rfl

/-- An empty body is read back, for a request and with this renderer, as a value that passes as null. -/
def EmptyIsNull (parsers : BodyParsers) (serializer : Serializer) (strict : Bool) (r : Request)
    (renderer : Renderer) (form : Slot Form) : Prop :=
  ∃ parser v form' w, BodyParsers.forRereading? none (some renderer) parsers = some parser ∧
    parser.read [] r .null form = .ok (v, form') ∧ serializer.check v .null (some strict) = .ok w

namespace ResponseCheck

variable {c : ResponseCheck m} {r answer response : Response} {request : Request}
  {decided : Decisions}

theorem contentType?_listingAnswer (methods : List String) :
    (listingAnswer methods).contentType? = none := by
  have hother : ("allow" == Text.asciiLower "content-type") = false := by decide +kernel
  simp [Response.contentType?, Headers.text?, Headers.get?, Headers.getAll, listingAnswer, hother]

theorem verdict_listing_eq_ok_iff {contentType : String} {methods : List String} {v : Json} :
    c.verdict listingSpec contentType (listingAnswer methods) v = .ok () ↔
      ∃ w, c.serializer.check v .null (some c.strict) = .ok w := by
  have hheaders : checkHeaders listingSpec (listingAnswer methods) = .ok () := by
    have hnames : (listingAnswer methods).headers.names.map Text.lower = ["allow"] := by
      have hlower : Text.lower "allow" = "allow" := by decide +kernel
      exact congrArg ([·]) hlower
    have hlower : Text.lower "Allow" = "allow" := by decide +kernel
    rw [checkHeaders_eq_ok_iff, hnames]
    simp [listingSpec, hlower]
  have hcookies : checkCookies listingSpec (listingAnswer methods) = .ok () := rfl
  have htype : c.KeepsType (listingAnswer methods) :=
    .inl ⟨rfl, rfl, contentType?_listingAnswer methods⟩
  rw [verdict_eq_ok_iff, checkBody_eq_ok_iff]
  constructor
  · rintro ⟨⟨-, model, w, models, hcheck⟩, -⟩
    cases models with
    | whole _ => exact ⟨w, hcheck⟩
    | member hmember _ _ => cases hmember
  · rintro ⟨w, hcheck⟩
    exact ⟨⟨fun _ h => (nomatch h), .null, w, .whole rfl, hcheck⟩, hheaders, hcookies, htype⟩

theorem accept_listing_eq_ok_iff (request : Request) (methods : List String) {renderer : Renderer}
    (hspec : c.contract.responses.find? .noContent = some listingSpec)
    (hheld : decided.renderer? = some renderer) :
    ((c.accept request (listingAnswer methods)).run.run decided).1 = .ok (listingAnswer methods) ↔
      (c.contract.validateResponses = true →
        EmptyIsNull c.contract.parsers c.serializer c.strict request renderer decided.form?) := by
  have hparser : ∀ parser, BodyParsers.forRereading? (listingAnswer methods).contentType?
      decided.renderer? c.contract.parsers = some parser ↔
        BodyParsers.forRereading? none (some renderer) c.contract.parsers = some parser := by
    rw [contentType?_listingAnswer, hheld]
    exact fun _ => Iff.rfl
  constructor
  · intro h checked
    obtain ⟨spec, parser, v, form, hfound, hreread, hread, hverdict⟩ := verdict_of_accept checked h
    cases hspec.symm.trans hfound
    obtain ⟨w, hcheck⟩ := verdict_listing_eq_ok_iff.mp hverdict
    exact ⟨parser, v, form, w, (hparser parser).mp hreread, hread, hcheck⟩
  · intro h
    cases hchecked : c.contract.validateResponses with
    | false => rw [outcome_accept, hchecked, if_neg Bool.false_ne_true]
    | true =>
      obtain ⟨parser, v, form, w, hreread, hread, hcheck⟩ := h hchecked
      have hverdict : c.verdict listingSpec (judgedType decided.renderer? parser)
          (listingAnswer methods) v = .ok () := verdict_listing_eq_ok_iff.mpr ⟨w, hcheck⟩
      have hempty : parser.read (listingAnswer methods).body request listingSpec.returnType
          decided.form? = .ok (v, form) := hread
      exact congrArg Prod.fst
        (run_accept_of_verdict hchecked hspec ((hparser parser).mpr hreread) hempty hverdict)

end ResponseCheck

namespace ControllerDecl

variable {d : ControllerDecl m} {r : Request}

/-- Nothing that the listing shares with other endpoints stands in its way: the components of the
request can be parsed, its renderer can be had, and the empty body is read back as null, if it is
checked; and the methods can stand in a header. -/
structure Unobstructed (d : ControllerDecl m) (r : Request) (start : Decisions) : Prop where
  listable : Listable d.listed
  reached : ∃ specs components decided renderer held, d.components = .ok specs ∧
    ((RequestModel.ofSpecs d.name specs d.strictRequests).parse d.parsers d.serializer r).run.run start =
      (.ok components, decided) ∧
    (Serving.renderer d.renderers r).run.run decided = (.ok renderer, held) ∧
    (d.defaults.validateResponses = true →
      EmptyIsNull d.parsers d.serializer d.strictResponses r renderer decided.form?)

theorem unobstructed_of_plain {chosen : Renderer} (listable : Listable d.listed)
    (hspecs : d.components = .ok []) (hserializer : d.serializer = .json)
    (hchoose : d.renderers.choose r = .ok chosen)
    (hreread : BodyParsers.forRereading? none (some chosen) d.parsers = some .json) :
    d.Unobstructed r {} := by
  have hstep : (Serving.renderer d.renderers r).run.run {} =
      (.ok chosen, { renderer? := some chosen }) := by
    rw [Serving.run_rendererStep]
    simp only [hchoose]
  have hread : BodyParser.json.read [] r .null none = .ok (.null, none) := by
    rw [BodyParser.read_json, bodyValue_nil]
  have hcheck : d.serializer.check .null .null (some d.strictResponses) = .ok .null := by
    rw [hserializer]
    rfl
  exact ⟨listable, [], .empty, {}, chosen, _, hspecs, rfl, hstep, fun _ =>
    ⟨.json, .null, none, .null, hreread, hread, hcheck⟩⟩

section Answers

variable [Monad m] {specs : List ComponentSpec} {contract : Contract m}

section

variable (built : Contract.Built (d.name ++ "." ++ "meta") (listing (m := m) d.listedNames).payload
  d.allDefaults specs "meta" contract)

include built

theorem parse_listing : (d.listingEndpoint specs contract).parse r =
    (RequestModel.ofSpecs d.name specs d.strictRequests).parse d.parsers d.serializer r := by
  have hparsers : contract.parsers = d.parsers := Contract.eq_shared_of_ownOrShared built.parsers
  rw [← hparsers]
  rfl

theorem respond_listing_eq_ok_iff {renderer : Renderer} {decided held : Decisions}
    {response : Response}
    (hstep : (Serving.renderer d.renderers r).run.run decided = (.ok renderer, held)) :
    (((d.listingEndpoint specs contract).respond r (.response (listingAnswer d.listed))).run.run
      decided).1 = .ok response ↔
      response = listingAnswer d.listed ∧ (d.defaults.validateResponses = true →
        EmptyIsNull d.parsers d.serializer d.strictResponses r renderer decided.form?) := by
  have hparsers : contract.parsers = d.parsers := Contract.eq_shared_of_ownOrShared built.parsers
  have hrenderers : contract.renderers = d.renderers :=
    Contract.eq_shared_of_ownOrShared built.renderers
  have hvalidate : contract.validateResponses = d.defaults.validateResponses :=
    built.validateResponses
  have haccepted := ResponseCheck.accept_listing_eq_ok_iff
    (c := (d.listingEndpoint specs contract).check) r d.listed built.find?_listing
    (Serving.held_of_rendererStep hstep)
  rw [Serving.form_of_rendererStep hstep] at haccepted
  have hrespond : ((d.listingEndpoint specs contract).respond r
      (.response (listingAnswer d.listed))).run.run decided =
      ((d.listingEndpoint specs contract).check.accept r (listingAnswer d.listed)).run.run held := by
    rw [← hrenderers] at hstep
    exact Serving.run_bind_of_ok hstep _
  rw [hrespond, ← hparsers, ← hvalidate]
  constructor
  · intro h
    obtain rfl := ResponseCheck.eq_of_accept h
    exact ⟨rfl, haccepted.mp h⟩
  · rintro ⟨rfl, h⟩
    exact haccepted.mpr h

variable [Deciding m]

theorem identify_listing (unasked : AuthPolicy.unsaid.combine d.defaults.auth = none) :
    (d.listingEndpoint specs contract).identify r = pure (.ok none) := by
  have hauth : (d.listingEndpoint specs contract).contract.auth = none := built.auth.trans unasked
  rw [Endpoint.identify, hauth]

theorem run_listing [LawfulMonad m] {chosen : Renderer} (hspecs : d.components = .ok specs)
    (unasked : AuthPolicy.unsaid.combine d.defaults.auth = none)
    (hchoose : d.renderers.choose r = .ok chosen) (start : Decisions) :
    ∃ out, (d.listingEndpoint specs contract).run r start = pure out ∧
      ∀ response, out.1 = .ok response ↔
        response = listingAnswer d.listed ∧ d.Unobstructed r start := by
  rw [Endpoint.run, identify_listing built unasked, StateT.run_pure, pure_bind]
  simp only [parse_listing built]
  rcases hparsed : ((RequestModel.ofSpecs d.name specs d.strictRequests).parse d.parsers
    d.serializer r).run.run start with ⟨failure | components, decided⟩
  · refine ⟨_, rfl, fun response => ⟨fun h => (by cases h), ?_⟩⟩
    rintro ⟨-, -, specs', components, decided', renderer, held, hspecs', hparsed', -⟩
    cases hspecs.symm.trans hspecs'
    cases hparsed.symm.trans hparsed'
  have hhandler : (d.listingEndpoint specs contract).handler ⟨r, components, none⟩ = pure
      (if Listable d.listed then .ok (.response (listingAnswer d.listed))
      else .error (.internal "Invalid header value")) :=
    handler_listing d.listedNames ⟨r, components, none⟩
  dsimp only
  rw [Endpoint.handle_of_pure hhandler, StateT.run_pure, pure_bind]
  by_cases listable : Listable d.listed
  · rw [if_pos listable]
    refine ⟨_, rfl, fun response => ?_⟩
    obtain ⟨renderer, held, hstep⟩ := Serving.exists_rendererStep hchoose decided
    refine (respond_listing_eq_ok_iff built hstep).trans (and_congr_right fun _ => ?_)
    constructor
    · intro h
      exact ⟨listable, specs, components, decided, renderer, held, hspecs, hparsed, hstep, h⟩
    · rintro ⟨-, specs', components', decided', renderer', held', hspecs', hparsed', hstep', h⟩
      cases hspecs.symm.trans hspecs'
      cases hparsed.symm.trans hparsed'
      cases hstep.symm.trans hstep'
      exact h
  · rw [if_neg listable]
    refine ⟨_, rfl, fun response => ⟨fun h => (by cases h), fun h => ?_⟩⟩
    exact absurd h.2.listable listable

end

end Answers

end ControllerDecl

/-- The response lists the methods that a controller serves. It has no content, no body and no cookies,
and its only header gives all of them in upper case, in ascending order and each once. -/
structure Controller.Lists (c : Controller m) (answer : Response) : Prop where
  status : answer.status = .noContent
  body : answer.body = []
  cookies : answer.cookies = []
  allow : ∃ methods, answer.headers.entries = [("allow", Text.utf8 (Text.join ", " methods))] ∧
    methods.Pairwise (· < ·) ∧
    ∀ method, method ∈ methods ↔ ∃ name ∈ c.endpoints.names, Text.asciiUpper name = method

namespace Controller

variable {c : Controller m} {d : ControllerDecl m}

theorem lists_listingAnswer (h : c.endpoints.names = d.listedNames.map servedMethod) :
    c.Lists (listingAnswer d.listed) where
  status := rfl
  body := rfl
  cookies := rfl
  allow := ⟨d.listed, rfl, Text.pairwise_sortedSet _, fun _ =>
    (ControllerDecl.mem_listed h).trans List.mem_map⟩

theorem not_lists_lastAnswer {renderer : Renderer} {failure : Failure} {answer : Response}
    (h : LastAnswer renderer failure answer) : ¬c.Lists answer := by
  rintro ⟨-, -, -, methods, hentries, -⟩
  cases h <;> simp [Headers.empty] at hentries

theorem not_lists_of_failure (renderer? : Option Renderer) (failure : Failure) :
    ¬c.Lists (match failure.answer renderer? with
      | .ok response => response
      | .error _ => { status := .internalError }) := by
  cases renderer? with
  | some renderer => exact not_lists_lastAnswer (answer_lastAnswer renderer failure)
  | none =>
    rintro ⟨-, -, -, methods, hentries, -⟩
    simp [Failure.answer, Response.json, Headers.set, Headers.empty] at hentries

/-- A request for the methods of a controller is answered, and with all of them just where nothing stands
in the way. -/
theorem listed_iff_unobstructed [Monad m] [LawfulMonad m] [Deciding m] {r : Request} (built : d.build = .ok c)
    (lists : d.listsMethods = true) (unasked : AuthPolicy.unsaid.combine d.defaults.auth = none)
    (unhandled : d.errorHandler = none) (asked : Text.asciiLower r.method = "options")
    (acceptable : r.accept? = none ∨ ∃ range ∈ r.acceptedTypes, ∃ key ∈ d.renderers.names,
      (MediaType.read key).fits range = true) (start : Decisions) :
    ∃ answer, c.dispatch r start = pure answer ∧ (c.Lists answer ↔ d.Unobstructed r start) := by
  obtain ⟨specs, contract, hspecs, hcontract, hnames, hserved⟩ :=
    ControllerDecl.listing_of_build built lists
  have hrenderers : contract.renderers = d.renderers :=
    Contract.eq_shared_of_ownOrShared hcontract.renderers
  have nonempty : d.renderers ≠ [] :=
    hrenderers ▸ Contract.ne_nil_of_ownOrShared hcontract.renderers
  obtain ⟨chosen, hchoose⟩ := Renderers.exists_choose nonempty acceptable
  obtain ⟨⟨outcome, decided⟩, hrun, hlisting⟩ :=
    ControllerDecl.run_listing hcontract hspecs unasked hchoose start
  rw [dispatch, endpointFor?, asked, hserved]
  dsimp only
  rw [Endpoint.serve, hrun, pure_bind]
  cases outcome with
  | ok answer =>
    obtain ⟨rfl, unobstructed⟩ := (hlisting answer).mp rfl
    exact ⟨_, rfl, fun _ => unobstructed, fun _ => lists_listingAnswer hnames⟩
  | error failure =>
    have hhandlers : (d.listingEndpoint specs contract).errorHandlers = [] := by
      have hown : contract.errorHandler = none := hcontract.errorHandler
      have hshared : (d.listingEndpoint specs contract).sharedErrorHandler = none := unhandled
      rw [Endpoint.errorHandlers, hshared]
      exact congrArg (fun own : Option (ErrorHandler m) => own.toList ++ []) hown
    refine ⟨_, Endpoint.recover_of_unhandled hhandlers r decided failure,
      fun h => absurd h (not_lists_of_failure _ failure), fun unobstructed => ?_⟩
    cases (hlisting _).mpr ⟨rfl, unobstructed⟩

def pageQuery : BaseRef := ⟨"Query", [.concrete (.object {
  name := "Page"
  fields := [("page", { schema := Schema.plainInteger })] })]⟩

def notes (bases : List BaseRef) : ControllerDecl Id := ControllerDecl.withSettings {} {
  name := "Notes"
  bases := bases
  listsMethods := true
  endpoints := [{
    method := "get"
    payload := { raw? := some { returnType := .any } }
    handler := fun _ => pure (.ok (.raw .null)) }] }

def methodsAsked : Request where
  method := "OPTIONS"
  uri := .root
  headers := .empty
  body := []

theorem notes_listed : ∃ c, (notes []).build = .ok c ∧
    ∃ answer, c.dispatch methodsAsked = pure answer ∧ c.Lists answer := by
  have hserves : "get" ∈ (notes []).servedMethods := by decide +kernel
  obtain ⟨c, e, hbuilt, -⟩ := ControllerDecl.served_of_mem hserves
  have hcomponents : (notes []).components = .ok [] := by with_unfolding_all rfl
  have unobstructed : (notes []).Unobstructed methodsAsked {} :=
    ControllerDecl.unobstructed_of_plain (by decide +kernel) hcomponents rfl
      (Renderers.choose_of_unsaid rfl) rfl
  have hasked : Text.asciiLower methodsAsked.method = "options" := by decide +kernel
  obtain ⟨answer, hanswer, hlists⟩ :=
    listed_iff_unobstructed hbuilt rfl rfl rfl hasked (Or.inl rfl) {}
  exact ⟨c, hbuilt, answer, hanswer, hlists.mpr unobstructed⟩

def answeredStatus? (d : ControllerDecl Id) (r : Request) : Option Status :=
  match d.build with
  | .ok c => some (Response.status (c.dispatch r))
  | .error _ => none

/-- A request for the methods of notes is refused if it does not name the page that is to be read. -/
theorem paged_notes_unlisted : ∃ c, (notes [pageQuery]).build = .ok c ∧
    ∃ answer, c.dispatch methodsAsked = pure answer ∧ answer.status = .badRequest ∧
      ¬c.Lists answer := by
  have hstatus : answeredStatus? (notes [pageQuery]) methodsAsked = some .badRequest := by
    decide +kernel
  unfold answeredStatus? at hstatus
  cases hbuilt : (notes [pageQuery]).build with
  | error failure =>
    rw [hbuilt] at hstatus
    cases hstatus
  | ok c =>
    rw [hbuilt] at hstatus
    have hrefused := Option.some.inj hstatus
    refine ⟨c, rfl, _, rfl, hrefused, fun lists => ?_⟩
    cases hrefused.symm.trans lists.status

end Controller

end Accord
