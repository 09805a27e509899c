import Accord.Proofs.Body
import Accord.Proofs.Contract.Declared
import Accord.Proofs.Contract.Specs
import Accord.Proofs.Message.Headers

namespace Accord

variable {m : Type → Type}

/-- All that a modification describes stands in the schema only, and the names are told apart. -/
structure Modification.Adding (modification : Modification) : Prop where
  headers : ∀ e ∈ modification.headers.getD [], ∀ spec, e.2 = .described spec → spec.schemaOnly = true
  cookies : ∀ e ∈ modification.cookies.getD [], ∀ spec, e.2 = .described spec → spec.schemaOnly = true
  headersApart : ((modification.headers.getD []).map fun e => Text.asciiLower e.1).Nodup
  cookiesApart : ((modification.cookies.getD []).map Prod.fst).Nodup

theorem mem_specs_iff_mem_added {ε α σ : Type} {added? : ε → Option α} {toSpec : ε → σ}
    {specOf : α → σ} {schemaOnly : σ → Bool} {entries : Named ε} {name : String} {spec : σ}
    (h : ∀ e ∈ entries,
      (∃ a, added? e.2 = some a ∧ toSpec e.2 = specOf a ∧ schemaOnly (specOf a) = false) ∨
        (added? e.2 = none ∧ schemaOnly (toSpec e.2) = true)) :
    ((name, spec) ∈ entries.map (fun (name, e) => (name, toSpec e)) ∧ schemaOnly spec = false) ↔
      ∃ a, (name, a) ∈ entries.filterMap (fun (name, e) => (added? e).map fun a => (name, a)) ∧
        specOf a = spec := by
  simp only [List.mem_map, List.mem_filterMap, Option.map_eq_some_iff]
  constructor
  · rintro ⟨⟨⟨key, entry⟩, he, hspec⟩, hreal⟩
    cases hspec
    rcases h _ he with ⟨a, hadded, hspec, -⟩ | ⟨-, hschema⟩
    · exact ⟨a, ⟨_, he, a, hadded, rfl⟩, hspec.symm⟩
    · exact absurd hschema (Bool.eq_false_iff.mp hreal)
  · rintro ⟨a, ⟨⟨key, entry⟩, he, a', hadded, hpair⟩, rfl⟩
    cases hpair
    rcases h _ he with ⟨b, hb, hspec, hreal⟩ | ⟨hnone, -⟩
    · obtain rfl := Option.some.inj (hadded.symm.trans hb)
      exact ⟨⟨_, he, Prod.ext rfl hspec⟩, hreal⟩
    · exact nomatch hadded.symm.trans hnone

theorem exists_spec_iff_exists_added {α σ : Type} {specs : Named σ} {added : Named α}
    {specOf : α → σ} {real : σ → Prop}
    (h : ∀ name spec, ((name, spec) ∈ specs ∧ real spec) ↔
      ∃ a, (name, a) ∈ added ∧ specOf a = spec) (p : String → Prop) :
    (∃ e ∈ specs, real e.2 ∧ p e.1) ↔ ∃ e ∈ added, p e.1 := by
  constructor
  · rintro ⟨e, he, hreal, hp⟩
    obtain ⟨a, ha, -⟩ := (h e.1 e.2).mp ⟨he, hreal⟩
    exact ⟨_, ha, hp⟩
  · rintro ⟨e, he, hp⟩
    obtain ⟨hspec, hreal⟩ := (h e.1 (specOf e.2)).mpr ⟨e.2, he, rfl⟩
    exact ⟨_, hspec, hreal, hp⟩

namespace Modification

variable {modification : Modification}

theorem getD_addedHeaders : modification.addedHeaders.getD [] =
    (modification.headers.getD []).filterMap fun (name, h) => h.added?.map fun h => (name, h) := by
  rw [addedHeaders]
  cases modification.headers <;> rfl

theorem getD_addedCookies : modification.addedCookies.getD [] =
    (modification.cookies.getD []).filterMap fun (name, c) => c.added?.map fun c => (name, c) := by
  rw [addedCookies]
  cases modification.cookies <;> rfl

theorem getD_headers_toSpec : modification.toSpec.headers.getD [] =
    (modification.headers.getD []).map fun (name, h) => (name, h.toSpec) := by
  rw [toSpec]
  cases modification.headers <;> rfl

theorem getD_cookies_toSpec : modification.toSpec.cookies.getD [] =
    (modification.cookies.getD []).map fun (name, c) => (name, c.toSpec) := by
  rw [toSpec]
  cases modification.cookies <;> rfl

theorem mem_headers_toSpec (adding : modification.Adding) {name : String} {spec : HeaderSpec} :
    ((name, spec) ∈ modification.toSpec.headers.getD [] ∧ spec.schemaOnly = false) ↔
      ∃ h, (name, h) ∈ modification.addedHeaders.getD [] ∧ h.toSpec = spec := by
  rw [getD_headers_toSpec, getD_addedHeaders]
  refine mem_specs_iff_mem_added (fun e he => ?_)
  cases hentry : e.2 with
  | added h => exact .inl ⟨h, rfl, rfl, rfl⟩
  | described spec => exact .inr ⟨rfl, adding.headers e he spec hentry⟩

theorem mem_cookies_toSpec (adding : modification.Adding) {name : String} {spec : CookieSpec} :
    ((name, spec) ∈ modification.toSpec.cookies.getD [] ∧ spec.schemaOnly = false) ↔
      ∃ c, (name, c) ∈ modification.addedCookies.getD [] ∧ c.toSpec = spec := by
  rw [getD_cookies_toSpec, getD_addedCookies]
  refine mem_specs_iff_mem_added (fun e he => ?_)
  cases hentry : e.2 with
  | added c => exact .inl ⟨c, rfl, rfl, rfl⟩
  | described spec => exact .inr ⟨rfl, adding.cookies e he spec hentry⟩

theorem names_addedHeaders_sublist :
    ((modification.addedHeaders.getD []).map Prod.fst).Sublist
      ((modification.headers.getD []).map Prod.fst) := by
  rw [getD_addedHeaders]
  exact Named.names_filterMap_sublist (fun _ h => HeaderEntry.added? h) _

theorem names_addedCookies_sublist :
    ((modification.addedCookies.getD []).map Prod.fst).Sublist
      ((modification.cookies.getD []).map Prod.fst) := by
  rw [getD_addedCookies]
  exact Named.names_filterMap_sublist (fun _ c => CookieEntry.added? c) _

def addedValues (modification : Modification) : Named String :=
  (modification.addedHeaders.getD []).map fun (name, h) => (name, h.value)

theorem mem_addedValues {e : String × NewHeader} (h : e ∈ modification.addedHeaders.getD []) :
    (e.1, e.2.value) ∈ modification.addedValues := List.mem_map.mpr ⟨e, h, rfl⟩

theorem addedValues_apart (adding : modification.Adding) :
    (modification.addedValues.map fun e => Text.asciiLower e.1).Nodup := by
  have hnames : modification.addedValues.map (fun e => Text.asciiLower e.1) =
      ((modification.addedHeaders.getD []).map Prod.fst).map Text.asciiLower := by
    simp [addedValues]
  have hapart : (((modification.headers.getD []).map Prod.fst).map Text.asciiLower).Nodup := by
    rw [List.map_map]
    exact adding.headersApart
  rw [hnames]
  exact hapart.sublist (names_addedHeaders_sublist.map _)

theorem mem_names_addedValues {name : String} : name ∈ modification.addedValues.names ↔
    ∃ e ∈ modification.addedHeaders.getD [], e.1 = name := by
  simp [addedValues, Named.names]

theorem mem_names_setAll_headersFor {contentType name : String} :
    name ∈ (Headers.setAll (modification.headersFor contentType) .empty).names ↔
      name = "content-type" ∨
        ∃ e ∈ modification.addedHeaders.getD [], Text.asciiLower e.1 = name := by
  have hlower : Text.asciiLower "Content-Type" = "content-type" := by decide +kernel
  have hnames : ∀ k, k ∈ (modification.headersFor contentType).names ↔
      k = "Content-Type" ∨ ∃ e ∈ modification.addedHeaders.getD [], e.1 = k := fun _ =>
    Named.mem_names_put.trans (or_congr_right mem_names_addedValues)
  rw [Headers.mem_names_setAll]
  simp only [hnames]
  constructor
  · rintro (⟨k, rfl | ⟨e, he, rfl⟩, rfl⟩ | hempty)
    · exact .inl hlower
    · exact .inr ⟨e, he, rfl⟩
    · cases hempty
  · rintro (rfl | ⟨e, he, rfl⟩)
    · exact .inl ⟨_, .inl rfl, hlower⟩
    · exact .inl ⟨_, .inr ⟨e, he, rfl⟩, rfl⟩

theorem lookup_setAll_headersFor (adding : modification.Adding) (contentType k : String) :
    (Headers.setAll (modification.headersFor contentType) .empty).entries.lookup k =
      if k = "content-type" then some (Text.utf8 contentType)
      else (Headers.lowered modification.addedValues).lookup k := by
  have hlower : Text.asciiLower "Content-Type" = "content-type" := by decide +kernel
  rw [Headers.lookup_setAll]
  refine (Option.or_none).trans ?_
  rw [← hlower]
  exact Headers.lookup_lowered_put (addedValues_apart adding) k _ _

theorem text?_setAll_headersFor (adding : modification.Adding) :
    (Headers.setAll (modification.headersFor Renderer.json.contentType) .empty).text?
      "content-type" = some Renderer.json.contentType := by
  have hlower : Text.asciiLower "content-type" = "content-type" := by decide +kernel
  have hvisible : Message.visibleText? (Text.utf8 Renderer.json.contentType) =
      some Renderer.json.contentType := by decide +kernel
  rw [Headers.text?, Headers.get?_eq_lookup, lookup_setAll_headersFor adding, if_pos hlower,
    Option.bind_some, hvisible]

end Modification

namespace RawAnswer

def body (a : RawAnswer) : Except Failure Bytes :=
  if a.status.isBodyless && a.data.isNull then .ok [] else a.renderer.render a.data

theorem toResponse_eq (a : RawAnswer) : a.toResponse = do
    let body ← a.body
    let r ← a.headers.foldlM
      (fun (r : Response) (name, value) => r.withHeader name (Text.utf8 value))
      { status := a.status, body := body }
    return (a.cookies.getD []).foldl (fun r (name, cookie) => r.withCookie name cookie) r := by
  unfold toResponse body
  split <;> rfl

theorem toResponse_eq_ok {a : RawAnswer} {r : Response} (h : a.toResponse = .ok r) :
    ∃ body, a.body = .ok body ∧ (∀ e ∈ a.headers, (Message.headerName? e.1).isSome) ∧
      r = { status := a.status
            headers := Headers.setAll a.headers .empty
            body := body
            cookies := Named.ofList (a.cookies.getD []) } := by
  rw [toResponse_eq] at h
  obtain ⟨body, hbody, h⟩ := ok_of_bind h
  obtain ⟨r₁, hheaders, h⟩ := ok_of_bind h
  obtain ⟨hnames, rfl⟩ := Response.withHeaders_eq_ok hheaders
  cases h
  exact ⟨body, hbody, hnames, Response.withCookies _ _⟩

theorem error_of_toResponse {a : RawAnswer} {failure : Failure} (h : a.toResponse = .error failure) :
    a.renderer.render a.data = .error failure ∨
      failure = .internal "Invalid header name" ∨ failure = .internal "Invalid header value" := by
  rw [toResponse_eq] at h
  rcases error_of_bind h with hbody | ⟨body, -, h⟩
  · unfold RawAnswer.body at hbody
    split at hbody
    · cases hbody
    · exact .inl hbody
  rcases error_of_bind h with hheaders | ⟨r, -, h⟩
  · obtain ⟨⟨name, value⟩, -, r, hheader⟩ := error_of_foldlM hheaders
    simp only [Response.withHeader] at hheader
    split at hheader
    · cases hheader
      exact .inr (.inl rfl)
    · split at hheader
      · cases hheader
      · cases hheader
        exact .inr (.inr rfl)
  · cases h

theorem bodyValue_of_body {a : RawAnswer} {body : Bytes} (hjson : a.renderer = .json)
    (hreread : Json.read (Text.utf8 a.data.render) = .ok a.data) (h : a.body = .ok body) :
    bodyValue body = .ok a.data := by
  unfold RawAnswer.body at h
  split at h
  · next hnull =>
    obtain ⟨-, hnull⟩ := Bool.and_eq_true_iff.mp hnull
    cases h
    cases hdata : a.data with
    | null => exact bodyValue_nil
    | _ => rw [hdata] at hnull; cases hnull
  · rw [hjson] at h
    cases h
    exact bodyValue_render hreread

end RawAnswer

namespace ResponseCheck

variable {c : ResponseCheck m} {request : Request} {modification : Modification} {v : Json}
  {r : Response}

/-- The response made of raw data that has been accepted is as its status is declared. -/
theorem asDeclared_of_rawAnswer (adding : modification.Adding)
    (declared : c.contract.responses.find? modification.status = some modification.toSpec)
    (registered : Renderer.json.contentType ∈ c.contract.renderers.names)
    (hreread : Json.read (Text.utf8 v.render) = .ok v)
    (valid : c.checkBody modification.toSpec Renderer.json.contentType v = .ok ())
    (h : (rawAnswer modification .json v).toResponse = .ok r) :
    c.AsDeclared request modification.toSpec v r := by
  obtain ⟨body, hbody, -, rfl⟩ := RawAnswer.toResponse_eq_ok h
  have hcookies : Named.ofList (modification.addedCookies.getD []) =
      modification.addedCookies.getD [] :=
    Named.ofList_eq_self (adding.cookiesApart.sublist Modification.names_addedCookies_sublist)
  refine {
    status := declared
    body := fun form => ?_
    valid := valid
    headers := fun name => ?_
    cookies := fun name => ?_
    admitted := ?_
    contentType := ?_
    registered := registered }
  · have hvalue : bodyValue body = .ok v :=
      RawAnswer.bodyValue_of_body (a := rawAnswer modification .json v) rfl hreread hbody
    rw [BodyParser.read_json, hvalue]
  · exact Modification.mem_names_setAll_headersFor.trans (or_congr_right
      (exists_spec_iff_exists_added (fun _ _ => Modification.mem_headers_toSpec adding)
        (Text.asciiLower · = name)).symm)
  · refine Iff.trans ?_ (exists_spec_iff_exists_added
      (fun _ _ => Modification.mem_cookies_toSpec adding) (· = name)).symm
    rw [rawAnswer, hcookies, Named.names, List.mem_map]
  · intro e he expected hexpected hreal
    obtain ⟨cookie, hcookie, rfl⟩ := (Modification.mem_cookies_toSpec adding).mp ⟨hexpected, hreal⟩
    have hapart := adding.cookiesApart.sublist Modification.names_addedCookies_sublist
    have he : e ∈ modification.addedCookies.getD [] := hcookies ▸ he
    have hsame : some cookie = some e.2 :=
      ((Named.lookup_iff_mem hapart).mpr hcookie).symm.trans ((Named.lookup_iff_mem hapart).mpr he)
    rw [Option.some.inj hsame]
    exact e.2.attrs.agree_self
  · exact Modification.text?_setAll_headersFor adding

theorem isAscii_of_toResponse (adding : modification.Adding)
    (h : (rawAnswer modification .json v).toResponse = .ok r) {e : String × HeaderSpec}
    (he : e ∈ modification.toSpec.headers.getD []) (hreal : e.2.schemaOnly = false) :
    Text.IsAscii e.1 := by
  obtain ⟨_, -, hnames, -⟩ := RawAnswer.toResponse_eq_ok h
  obtain ⟨added, hadded, -⟩ := (Modification.mem_headers_toSpec adding).mp ⟨he, hreal⟩
  have hname : e.1 ∈ (modification.headersFor Renderer.json.contentType).names :=
    Named.mem_names_put.mpr (.inr (Modification.mem_names_addedValues.mpr ⟨_, hadded, rfl⟩))
  obtain ⟨f, hf, hsame⟩ := List.mem_map.mp hname
  obtain ⟨lower, hlower⟩ := Option.isSome_iff_exists.mp (hnames f hf)
  exact Message.isAscii_of_headerName? (hsame ▸ hlower)

theorem added_of_toResponse (adding : modification.Adding)
    (h : (rawAnswer modification .json v).toResponse = .ok r) :
    (∀ e ∈ modification.addedHeaders.getD [], Text.asciiLower e.1 ≠ "content-type" →
      r.headers.getAll e.1 = [Text.utf8 e.2.value]) ∧
      r.cookies = modification.addedCookies.getD [] := by
  obtain ⟨body, -, -, rfl⟩ := RawAnswer.toResponse_eq_ok h
  constructor
  · intro e he hother
    have hapart : ((Headers.lowered modification.addedValues).map Prod.fst).Nodup :=
      Headers.names_lowered _ ▸ Modification.addedValues_apart adding
    have hlowered : (Text.asciiLower e.1, Text.utf8 e.2.value) ∈
        Headers.lowered modification.addedValues :=
      List.mem_map.mpr ⟨_, Modification.mem_addedValues he, rfl⟩
    have hdistinct : ((Headers.setAll (modification.headersFor Renderer.json.contentType)
        .empty).entries.map Prod.fst).Nodup := Headers.nodup_setAll _ List.nodup_nil
    have hlookup : (Headers.setAll (modification.headersFor Renderer.json.contentType)
        .empty).entries.lookup (Text.asciiLower e.1) = some (Text.utf8 e.2.value) := by
      rw [Modification.lookup_setAll_headersFor adding, if_neg hother]
      exact (Named.lookup_iff_mem hapart).mpr hlowered
    exact (Headers.getAll_eq_toList hdistinct e.1).trans (congrArg Option.toList hlookup)
  · exact Named.ofList_eq_self
      (adding.cookiesApart.sublist Modification.names_addedCookies_sublist)

section Built

variable {endpoint methodName : String} {payload : Payload m} {defaults : EndpointDefaults m}
  {components : List ComponentSpec} {raw : RawResponse} {d d₁ : Decisions} {answer : RawAnswer}

/-- The response made of raw data keeps the contract that the raw data keeps. Once the data has been
accepted and has become a response of JSON, the response is accepted as it is for the same request: it
is as its status is declared, with the headers and cookies that are added to it. -/
theorem accept_of_acceptRaw
    (built : Contract.build endpoint payload defaults components methodName = .ok c.contract)
    (made : payload.raw? = some raw) (checked : c.contract.validateResponses = true)
    (registered : Renderer.json.contentType ∈ c.contract.renderers.names)
    (headersApart : ((raw.headers.getD []).map fun e => Text.asciiLower e.1).Nodup)
    (cookiesApart : ((raw.cookies.getD []).map Prod.fst).Nodup)
    (negotiated : d.renderer? = some .json) (reread : Json.read (Text.utf8 v.render) = .ok v)
    (accepted : (c.acceptRaw v).run.run d = (.ok answer, d₁))
    (responded : answer.toResponse = .ok r) :
    (c.accept request r).run.run d₁ = (.ok r, d₁) ∧
      c.AsDeclared request (Contract.modificationFor c.contract.method raw).toSpec v r ∧
      (∀ e ∈ (Contract.modificationFor c.contract.method raw).addedHeaders.getD [],
        Text.asciiLower e.1 ≠ "content-type" → r.headers.getAll e.1 = [Text.utf8 e.2.value]) ∧
      r.cookies = (Contract.modificationFor c.contract.method raw).addedCookies.getD [] := by
  have hbuilt := Contract.build_eq_ok_iff.mp built
  obtain ⟨hmodification, hheaders, hcookies⟩ :=
    Contract.modificationOf_eq_ok made hbuilt.modification
  have declared := hbuilt.find?_modification hmodification
  have adding : (Contract.modificationFor c.contract.method raw).Adding :=
    ⟨Contract.checkNewHeaders_eq_ok_iff.mp hheaders, Contract.checkNewCookies_eq_ok_iff.mp hcookies,
      headersApart, cookiesApart⟩
  rw [run_acceptRaw hmodification negotiated, checked] at accepted
  obtain ⟨houtcome, rfl⟩ := Prod.mk.inj accepted
  have hspec : c.specFor (Contract.modificationFor c.contract.method raw).status =
      .ok (Contract.modificationFor c.contract.method raw).toSpec := by
    unfold specFor
    rw [declared]
  have hjudged := (bind_of_ok hspec _).symm.trans houtcome
  obtain ⟨⟨⟩, valid, hanswer⟩ := ok_of_bind hjudged
  cases hanswer
  have asDeclared : c.AsDeclared request _ v r :=
    asDeclared_of_rawAnswer adding declared registered reread valid responded
  obtain ⟨hvalues, hadded⟩ := added_of_toResponse adding responded
  exact ⟨asDeclared.accepted (fun _ => isAscii_of_toResponse adding responded) negotiated, asDeclared,
    hvalues, hadded⟩

end Built

def keptNote : RawResponse where
  returnType := .object { name := "Note", fields := [("title", { schema := Schema.plainString })] }
  headers := some [("X-Kept", .added { value := "yes" }), ("ETag", .described { schemaOnly := true })]
  cookies := some [("seen", .added { value := "1" })]

def keptContract : Contract Id where
  method := "put"
  responses := [
    (Contract.modificationFor "put" keptNote).toSpec,
    Contract.failureSpec .unprocessable
      "Raised when returned response does not match the response schema",
    Contract.failureSpec .notAcceptable "Raised when provided `Accept` header cannot be satisfied"]
  modification := some (Contract.modificationFor "put" keptNote)
  parsers := [("application/json", .json)]
  renderers := [("application/json", .json)]

theorem keptContract_built : Contract.build "Notes.put" { raw? := some keptNote }
    { parsers := [("application/json", .json)], renderers := [("application/json", .json)] } [] "put" =
      .ok keptContract := rfl

def keptCheck : ResponseCheck Id := ⟨keptContract, .json, true⟩

def keptAnswer : RawAnswer :=
  rawAnswer (Contract.modificationFor "put" keptNote) .json (.object [("title", .string "lean")])

theorem kept_note_accepted : ∃ r : Response, keptAnswer.toResponse = .ok r ∧
    (keptCheck.accept default r).run.run { renderer? := some .json } =
      (.ok r, { renderer? := some .json }) ∧
    r.headers.getAll "X-Kept" = [Text.utf8 "yes"] := by
  have hok : keptAnswer.toResponse.isOk = true := by decide +kernel
  have hreread : Json.read (Text.utf8 keptAnswer.data.render) = .ok keptAnswer.data := by
    decide +kernel
  cases hresponse : keptAnswer.toResponse with
  | error failure => rw [hresponse] at hok; cases hok
  | ok r =>
    obtain ⟨haccepted, -, hvalues, -⟩ :
        (keptCheck.accept default r).run.run { renderer? := some .json } = _ ∧ _ :=
      accept_of_acceptRaw (c := keptCheck) (d := { renderer? := some .json }) keptContract_built rfl
        rfl (by decide) (by decide +kernel) (by decide) rfl hreread rfl hresponse
    have hvalue := hvalues ("X-Kept", { value := "yes" }) List.mem_cons_self (by decide +kernel)
    exact ⟨r, rfl, haccepted, hvalue⟩

end ResponseCheck

end Accord
