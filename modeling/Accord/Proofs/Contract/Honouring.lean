import Accord.Proofs.Body
import Accord.Proofs.Contract.Breaches
import Accord.Proofs.Contract.Described
import Accord.Proofs.Negotiation.Rereading

namespace Accord

open MediaType

namespace ResponseCheck

variable {m : Type → Type} {c : ResponseCheck m} {spec : ResponseSpec} {request : Request}
  {r : Response} {d : Decisions} {renderer : Renderer}

/-- The response keeps the clauses on its body, and on what its headers and its cookies are. -/
structure Keeps (c : ResponseCheck m) (request : Request) (renderer : Renderer) (form : Slot Form)
    (spec : ResponseSpec) (r : Response) : Prop where
  listed : Listed spec renderer.contentType
  valid : ∃ parser v form', BodyParsers.forRereading? r.contentType? (some renderer)
      c.contract.parsers = some parser ∧
    parser.read r.body request spec.returnType form = .ok (v, form') ∧
    c.Valid spec renderer.contentType v
  headersThere : ∀ e ∈ spec.headers.getD [], e.2.required = true → e.2.schemaOnly = false →
    Text.lower e.1 ∈ r.headers.names.map Text.lower
  headersDescribed : ∀ name ∈ r.headers.names.map Text.lower, name ≠ "content-type" →
    ∃ e ∈ spec.headers.getD [], e.2.schemaOnly = false ∧ Text.lower e.1 = name
  cookiesThere : ∀ e ∈ spec.cookies.getD [], e.2.required = true → e.2.schemaOnly = false →
    e.1 ∈ r.cookies.names
  cookiesDescribed : ∀ e ∈ r.cookies, ∃ expected, (knownCookies spec).lookup e.1 = some expected ∧
    expected.attrs.Near e.2.attrs

/-- Every cookie has the policy for requests from other sites that is declared for it. -/
def KeepsSites (spec : ResponseSpec) (r : Response) : Prop :=
  ∀ e ∈ r.cookies, ∀ expected, (knownCookies spec).lookup e.1 = some expected →
    expected.attrs.sameSite = e.2.attrs.sameSite

theorem accept_eq_ok_iff (checked : c.contract.validateResponses = true)
    (negotiated : d.renderer? = some renderer) :
    ((c.accept request r).run.run d).1 = .ok r ↔ ∃ spec,
      c.contract.responses.find? r.status = some spec ∧ c.Keeps request renderer d.form? spec r ∧
        KeepsSites spec r ∧ c.KeepsType r := by
  constructor
  · intro h
    obtain ⟨spec, parser, v, form, hspec, hparser, hread, hverdict⟩ := verdict_of_accept checked h
    rw [negotiated] at hparser hverdict
    obtain ⟨hbody, hheaders, hcookies, htype⟩ := verdict_eq_ok_iff.mp hverdict
    obtain ⟨hlisted, hvalid⟩ := checkBody_eq_ok_iff.mp hbody
    obtain ⟨hthere, hdescribed⟩ := checkHeaders_eq_ok_iff.mp hheaders
    obtain ⟨hcookiesThere, hnear⟩ := checkCookies_eq_ok_iff_near.mp hcookies
    refine ⟨spec, hspec, ⟨hlisted, ⟨parser, v, form, hparser, hread, hvalid⟩, hthere, hdescribed,
      hcookiesThere, fun e he => ?_⟩, fun e he expected hexpected => ?_, htype⟩
    · obtain ⟨expected, hexpected, hattrs, -⟩ := hnear e he
      exact ⟨expected, hexpected, hattrs⟩
    · obtain ⟨known, hknown, -, hsite⟩ := hnear e he
      obtain rfl := Option.some.inj (hknown.symm.trans hexpected)
      exact hsite
  · rintro ⟨spec, hspec, keeps, hsites, htype⟩
    obtain ⟨parser, v, form, hparser, hread, hvalid⟩ := keeps.valid
    have hcookies : checkCookies spec r = .ok () := by
      refine checkCookies_eq_ok_iff_near.mpr ⟨keeps.cookiesThere, fun e he => ?_⟩
      obtain ⟨expected, hexpected, hattrs⟩ := keeps.cookiesDescribed e he
      exact ⟨expected, hexpected, hattrs, hsites e he expected hexpected⟩
    have hverdict : c.verdict spec (judgedType d.renderer? parser) r v = .ok () := by
      rw [negotiated]
      exact verdict_eq_ok_iff.mpr ⟨checkBody_eq_ok_iff.mpr ⟨keeps.listed, hvalid⟩,
        checkHeaders_eq_ok_iff.mpr ⟨keeps.headersThere, keeps.headersDescribed⟩, hcookies, htype⟩
    rw [run_accept_of_verdict checked hspec (negotiated ▸ hparser) hread hverdict]

theorem error_of_accept_ne_ok (nonempty : c.contract.parsers ≠ [])
    (h : ((c.accept request r).run.run d).1 ≠ .ok r) :
    ∃ message details, ((c.accept request r).run.run d).1 = .error (.brokenContract message details) := by
  cases hout : ((c.accept request r).run.run d).1 with
  | ok accepted => exact absurd (eq_of_accept hout ▸ hout) h
  | error f =>
    cases refused_of_accept hout with
    | undeclared hspec =>
      obtain ⟨message, rfl, -⟩ := undeclared_of_specFor hspec
      exact ⟨message, [], rfl⟩
    | unreread hnone => exact absurd hnone (BodyParsers.forRereading?_ne_none nonempty)
    | unread => exact ⟨_, _, rfl⟩
    | breach _ hbreach =>
      obtain ⟨message, details, rfl, -⟩ := hbreach.opens
      exact ⟨message, details, rfl⟩

section Built

variable {endpoint methodName : String} {payload : Payload m} {defaults : EndpointDefaults m}
  {components : List ComponentSpec}

/-- With a renderer at hand, a response to an endpoint that checks its responses is accepted as it is if
it keeps every clause of the declaration of its status, and is refused as a breach if it does not. -/
theorem accepted_iff_keeps
    (built : Contract.build endpoint payload defaults components methodName = .ok c.contract)
    (checked : c.contract.validateResponses = true) (negotiated : d.renderer? = some renderer) :
    (((c.accept request r).run.run d).1 = .ok r ↔ ∃ spec,
      c.contract.responses.find? r.status = some spec ∧ c.Keeps request renderer d.form? spec r ∧
        KeepsSites spec r ∧ c.KeepsType r) ∧
      (((c.accept request r).run.run d).1 ≠ .ok r → ∃ message details,
        ((c.accept request r).run.run d).1 = .error (.brokenContract message details)) := by
  have hbuilt := Contract.build_eq_ok_iff.mp built
  exact ⟨accept_eq_ok_iff checked negotiated,
    error_of_accept_ne_ok (Contract.ne_nil_of_ownOrShared hbuilt.parsers)⟩

end Built

def seenSpec : ResponseSpec where
  returnType := .any
  status := .ok
  cookies := some [("seen", { required := false })]

def seenDefaults : EndpointDefaults Id where
  parsers := [("application/json", .json)]
  renderers := [("application/json", .json)]

def seenContract : Contract Id where
  method := "get"
  responses := [seenSpec,
    Contract.failureSpec .unprocessable
      "Raised when returned response does not match the response schema",
    Contract.failureSpec .notAcceptable "Raised when provided `Accept` header cannot be satisfied"]
  parsers := seenDefaults.parsers
  renderers := seenDefaults.renderers

theorem seenContract_built : Contract.build "Notes.get" { responses := [seenSpec] } seenDefaults []
    "get" = .ok seenContract := rfl

def seenCheck : ResponseCheck Id := ⟨seenContract, .json, true⟩

def seenCount (contentType : String) (site : SameSite) : Response where
  status := .ok
  headers := Headers.empty.set "content-type" (Text.utf8 contentType)
  body := Text.utf8 "1"
  cookies := [("seen", { value := "1", attrs := { sameSite := site } })]

theorem keeps_seenCount (contentType : String) (site : SameSite) :
    seenCheck.Keeps default .json none seenSpec (seenCount contentType site) where
  listed := fun _ h => (nomatch h)
  valid := by
    have hbody : bodyValue (Text.utf8 "1") = .ok (.int 1) := by decide +kernel
    have hread : BodyParser.json.read (Text.utf8 "1") default .any none = .ok (.int 1, none) := by
      rw [BodyParser.read_json, hbody]
    exact ⟨.json, _, _, rfl, hread, .any, _, .whole rfl, rfl⟩
  headersThere := fun _ h => (nomatch h)
  headersDescribed := by
    intro name hname hother
    have hnames : (seenCount contentType site).headers.names.map Text.lower = ["content-type"] := by
      change ["content-type"].map Text.lower = ["content-type"]
      decide +kernel
    rw [hnames] at hname
    exact absurd (List.mem_singleton.mp hname) hother
  cookiesThere := by
    intro e he hrequired
    obtain rfl := List.mem_singleton.mp he
    cases hrequired
  cookiesDescribed := by
    intro e he
    obtain rfl := List.mem_singleton.mp he
    exact ⟨{ required := false }, rfl, rfl, rfl, rfl, rfl, rfl⟩

theorem seen_count_accepted :
    Contract.build "Notes.get" { responses := [seenSpec] } seenDefaults [] "get" =
      .ok seenCheck.contract ∧
    ((seenCheck.accept default (seenCount "application/json" .lax)).run.run
      { renderer? := some .json }).1 = .ok (seenCount "application/json" .lax) := by
  refine ⟨seenContract_built, (accepted_iff_keeps (c := seenCheck) (d := { renderer? := some .json })
    seenContract_built rfl rfl).1.mpr ⟨seenSpec, rfl, keeps_seenCount _ _, ?_, ?_⟩⟩
  · intro e he expected hexpected
    obtain rfl := List.mem_singleton.mp he
    cases hexpected
    rfl
  · exact .inr ⟨"application/json", List.mem_cons_self, by decide +kernel, by decide +kernel⟩

/-- Text is refused where only JSON is registered, and so is a cookie that is kept from other sites
where that is not declared, although all other clauses are kept. -/
theorem keeps_not_enough :
    Contract.build "Notes.get" { responses := [seenSpec] } seenDefaults [] "get" =
      .ok seenCheck.contract ∧ seenCheck.contract.validateResponses = true ∧
    seenCheck.contract.responses.find? .ok = some seenSpec ∧
    (seenCheck.Keeps default .json none seenSpec (seenCount "text/plain" .lax) ∧
      ((seenCheck.accept default (seenCount "text/plain" .lax)).run.run
        { renderer? := some .json }).1 ≠ .ok (seenCount "text/plain" .lax)) ∧
    seenCheck.Keeps default .json none seenSpec (seenCount "application/json" .strict) ∧
      ((seenCheck.accept default (seenCount "application/json" .strict)).run.run
        { renderer? := some .json }).1 ≠ .ok (seenCount "application/json" .strict) := by
  refine ⟨seenContract_built, rfl, rfl, ⟨keeps_seenCount _ _, fun h => ?_⟩, keeps_seenCount _ _,
    fun h => ?_⟩
  · obtain ⟨_, -, -, -, htype⟩ := (accept_eq_ok_iff (c := seenCheck) rfl rfl).mp h
    rcases htype with ⟨hbodyless, -⟩ | ⟨key, hkey, -, hfits⟩
    · cases hbodyless
    · obtain rfl := List.mem_singleton.mp hkey
      exact absurd hfits (by decide +kernel)
  · obtain ⟨spec, hspec, -, hsites, -⟩ := (accept_eq_ok_iff (c := seenCheck) rfl rfl).mp h
    obtain rfl := Option.some.inj (Eq.symm hspec)
    cases hsites _ List.mem_cons_self { required := false } (by decide)

end ResponseCheck

end Accord
