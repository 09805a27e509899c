import Accord.Proofs.Contract.Telling
import Accord.Proofs.Contract.Uniqueness

namespace Accord

open Schema

theorem errorModel_namesApart : errorModel.NamesApart := by
  simp [NamesApart, OwnNamesApart, errorModel, detailSchema, stepSchema, listOf, plainString,
    plainInteger, Field.asOptional]

namespace Contract

variable {m : Type → Type} {endpoint methodName : String} {payload : Payload m}
  {defaults : EndpointDefaults m} {components : List ComponentSpec} {c : Contract m}

def impliedStatuses : List Status :=
  [.badRequest, .notFound, .unprocessable, .notAcceptable, .unauthorized]

theorem status_of_mem_failures {component : Component} (h : component ∈ Component.all) :
    ∀ e ∈ component.failures, e.1 ∈ impliedStatuses := by
  simp only [Component.all, List.mem_cons, List.not_mem_nil, or_false] at h
  rcases h with rfl | rfl | rfl | rfl | rfl | rfl <;> decide

theorem failure_of_mem_impliedSpecs {spec : ResponseSpec} (h : spec ∈ c.impliedSpecs) :
    ∃ status description, spec = failureSpec status description ∧
      (status ∈ [.unprocessable, .notAcceptable, .unauthorized] ∨
        ∃ part ∈ c.components, (status, description) ∈ part.component.failures) := by
  rw [impliedSpecs, List.mem_append, List.mem_append, List.mem_flatMap, List.mem_flatMap,
    List.mem_flatMap] at h
  rcases h with (⟨part, hpart, h⟩ | ⟨renderer, -, h⟩) | ⟨provider, -, h⟩
  · obtain ⟨e, he, rfl⟩ := List.mem_map.mp h
    exact ⟨e.1, e.2, rfl, .inr ⟨part, hpart, he⟩⟩
  · rcases List.mem_append.mp h with h | h
    · split at h
      · exact ⟨_, _, List.mem_singleton.mp h, .inl (by decide)⟩
      · cases h
    · exact ⟨_, _, List.mem_singleton.mp h, .inl (by decide)⟩
  · exact ⟨_, _, List.mem_singleton.mp h, .inl (by decide)⟩

theorem status_of_mem_impliedSpecs (builtIn : ∀ spec ∈ c.components, spec.component ∈ Component.all)
    {spec : ResponseSpec} (h : spec ∈ c.impliedSpecs) : spec.status ∈ impliedStatuses := by
  obtain ⟨status, description, rfl, hstatus | ⟨part, hpart, hfailure⟩⟩ :=
    failure_of_mem_impliedSpecs h
  · have hall : ∀ status ∈ [Status.unprocessable, .notAcceptable, .unauthorized],
        status ∈ impliedStatuses := by decide
    exact hall status hstatus
  · exact status_of_mem_failures (builtIn part hpart) _ hfailure

theorem namesApart_of_mem_impliedSpecs {spec : ResponseSpec} (h : spec ∈ c.impliedSpecs) :
    spec.NamesApart := by
  obtain ⟨status, description, rfl, -⟩ := failure_of_mem_impliedSpecs h
  exact ⟨errorModel_namesApart, fun _ h => (nomatch h), fun _ h => (nomatch h)⟩

theorem mem_union {rule : BodyRule} {a b : List BodyRule} :
    rule ∈ BodyRule.union a b ↔ rule ∈ a ∨ rule ∈ b := by
  have hall : rule ∈ BodyRule.all := by cases rule <;> decide
  simp [BodyRule.union, hall]

/-- What declarations of responses have passed when they are accepted. -/
structure SpecsChecked (c : Contract m) (endpoint : String) (specs : List ResponseSpec) : Prop where
  unique : checkUnique endpoint [] specs = .ok ()
  compile : ∀ spec ∈ specs, PatternsCompile spec.returnType
  headers : ∀ spec ∈ specs, ∀ e ∈ spec.headers.getD [], Text.asciiLower e.1 ≠ "set-cookie"
  bodyless : .emptyResponseBody ∉ c.skippedRules →
    ∀ spec ∈ specs, spec.status.isBodyless = true → spec.returnType = .null

theorem returnType_of_checkBodyless {spec : ResponseSpec} (h : checkBodyless endpoint spec = .ok ())
    (bodyless : spec.status.isBodyless = true) : spec.returnType = .null := by
  unfold checkBodyless at h
  rw [bodyless, Bool.true_and] at h
  cases hnull : spec.returnType.isNull with
  | false =>
    rw [hnull] at h
    cases h
  | true =>
    cases htype : spec.returnType with
    | null => rfl
    | _ => rw [htype] at hnull; cases hnull

theorem specsChecked_of_checkSpecs {specs : List ResponseSpec} {responses : ResponseSpecs}
    (h : c.checkSpecs endpoint specs = .ok responses) : SpecsChecked c endpoint specs := by
  unfold checkSpecs at h
  obtain ⟨⟨⟩, hunique, h⟩ := ok_of_bind h
  obtain ⟨⟨⟩, hcompile, h⟩ := ok_of_bind h
  obtain ⟨⟨⟩, hheaders, h⟩ := ok_of_bind h
  refine ⟨hunique, fun spec hspec => ?_, fun spec hspec e he => ?_, fun hrule spec hspec => ?_⟩
  · exact checkDefinition_eq_ok_iff.mp (forM_eq_ok_iff.mp hcompile spec hspec)
  · have hnames := refused_if_any_eq_ok_iff.mp (forM_eq_ok_iff.mp hheaders spec hspec) e he
    exact beq_eq_false_iff_ne.mp hnames
  · have hchecked : (!c.skippedRules.contains .emptyResponseBody) = true := by
      rw [Bool.not_eq_true', ← Bool.not_eq_true, List.contains_iff_mem]
      exact hrule
    dsimp only at h
    rw [if_pos hchecked] at h
    obtain ⟨⟨⟩, hbodyless, -⟩ := ok_of_bind h
    exact returnType_of_checkBodyless (forM_eq_ok_iff.mp hbodyless spec hspec)

theorem modification_of_modificationOf {method : String} {found : Option Modification}
    (h : modificationOf endpoint method payload defaults = .ok found) :
    found = payload.raw?.map (modificationFor method) := by
  cases hraw : payload.raw? with
  | none =>
    simp only [modificationOf, hraw] at h
    split at h
    · cases h
    · cases h
      rfl
  | some raw =>
    obtain ⟨hfound, -, -⟩ := modificationOf_eq_ok hraw h
    rw [hfound, Option.map_some]

theorem compiles_of_typeArgs {spec : ComponentSpec} (builtIn : spec.component ∈ Component.all)
    (h : ∀ s ∈ spec.typeArgs, PatternsCompile s) : RequestModel.Compiles spec := by
  have hmodel : PatternsCompile spec.model := by
    rw [ComponentSpec.model]
    cases hargs : spec.typeArgs with
    | nil => exact everywhere_any.mpr trivial
    | cons s rest => exact h s (hargs ▸ List.mem_cons_self)
  refine ⟨hmodel, fun e he => ?_⟩
  obtain ⟨component, typeArgs⟩ := spec
  have hmember : ∀ {model : Schema}, PatternsCompile model → e ∈ model.mapping?.getD [] →
      PatternsCompile e.2 := by
    intro model hmodel he
    cases model with
    | conditional mapping => exact (everywhere_conditional.mp hmodel).2 e he
    | _ => cases he
  simp only [Component.all, List.mem_cons, List.not_mem_nil, or_false] at builtIn
  rcases builtIn with rfl | rfl | rfl | rfl | rfl | rfl
  case inr.inl => exact hmember hmodel he
  all_goals cases he

/-- What a contract has if it is built of this declaration. -/
structure WellFormed (payload : Payload m) (defaults : EndpointDefaults m) (c : Contract m) :
    Prop where
  parsers : c.parsers ≠ []
  renderers : c.renderers ≠ []
  modification : c.modification = payload.raw?.map (modificationFor c.method)
  ownStatus : ∀ spec ∈ c.responses, c.responses.find? spec.status = some spec
  declared : ∀ spec ∈ c.declaredSpecs payload defaults,
    ∃ kept, c.responses.find? spec.status = some kept ∧ (kept = spec ∨ kept.same spec = true)
  implied : ∀ spec ∈ c.responses, spec ∈ c.declaredSpecs payload defaults ∨
    spec ∈ c.impliedSpecs ∧ spec.status ∈ impliedStatuses ∧
      ∀ other ∈ c.declaredSpecs payload defaults, other.status ≠ spec.status
  noCookieHeader : ∀ spec ∈ c.responses, ∀ e ∈ spec.headers.getD [],
    Text.asciiLower e.1 ≠ "set-cookie"
  bodylessStatus : .emptyResponseBody ∉ payload.options.skippedRules →
    .emptyResponseBody ∉ defaults.skippedRules →
      ∀ spec ∈ c.responses, spec.status.isBodyless = true → spec.returnType = .null
  bodylessMethod : .emptyRequestBody ∉ payload.options.skippedRules →
    .emptyRequestBody ∉ defaults.skippedRules →
      c.method ∈ ["get", "head", "delete", "connect", "trace"] →
        ∀ spec ∈ c.components, spec.component ≠ .body
  responsesCompile : ∀ spec ∈ c.responses, PatternsCompile spec.returnType
  componentsCompile : ∀ spec ∈ c.components, ∀ s ∈ spec.typeArgs, PatternsCompile s
  requestsUntold : ∀ (blueprint : String) (strict : Option Bool) (r : Request)
    (members : List (String × Json)) (f : Failure),
      (RequestModel.ofSpecs blueprint c.components strict).check .json r members = .error f →
        ¬f.RefusesPattern
  responsesUntold : ∀ (strict : Bool) (request : Request) (r : Response) (d : Decisions)
    (f : Failure), ((ResponseCheck.accept ⟨c, .json, strict⟩ request r).run.run d).1 = .error f →
      ¬f.RefusesPattern
  rawUntold : ∀ (strict : Bool) (v : Json) (d : Decisions) (f : Failure),
    ((ResponseCheck.acceptRaw ⟨c, .json, strict⟩ v).run.run d).1 = .error f → ¬f.RefusesPattern
  files : ∀ spec ∈ c.components, spec.component = .fileMetadata →
    ∃ e ∈ c.parsers, e.2.readsFiles = true

/-- A spec that nobody declared is an implied one, under a status of its own. -/
theorem declared_or_implied (builtIn : ∀ spec ∈ c.components, spec.component ∈ Component.all)
    {spec : ResponseSpec} (hspec : spec ∈ c.allSpecs payload defaults) :
    spec ∈ c.declaredSpecs payload defaults ∨
      spec ∈ c.impliedSpecs ∧ spec.status ∈ impliedStatuses ∧
        ∀ other ∈ c.declaredSpecs payload defaults, other.status ≠ spec.status := by
  refine (List.mem_append.mp hspec).imp_right fun hmissing => ?_
  have himplied := ResponseSpecs.mem_of_mem_missing hmissing
  refine ⟨himplied, status_of_mem_impliedSpecs builtIn himplied, fun other hother hstatus => ?_⟩
  obtain ⟨kept, -, hkept⟩ := ResponseSpecs.exists_find?_ofList hother
  have hhas := ResponseSpecs.has_of_find? hkept
  rw [hstatus, ResponseSpecs.has_eq_false_of_mem_missing hmissing] at hhas
  cases hhas

namespace Built

variable (h : Built endpoint payload defaults components methodName c)

include h

theorem components_eq : c.components = components := by
  rw [h.parts]
  rfl

theorem skippedRules_eq :
    c.skippedRules = BodyRule.union payload.options.skippedRules defaults.skippedRules := by
  rw [h.parts]
  rfl

theorem specsChecked : SpecsChecked c endpoint (c.allSpecs payload defaults) :=
  specsChecked_of_checkSpecs h.responses

theorem mem_allSpecs {spec : ResponseSpec} (hspec : spec ∈ c.responses) :
    spec ∈ c.allSpecs payload defaults := by
  rw [responses_of_checkSpecs h.responses] at hspec
  exact ResponseSpecs.mem_of_mem_ofList hspec

theorem checkComponent {spec : ComponentSpec} (hspec : spec ∈ c.components) :
    spec.component.checkParsers c.parsers = .ok () ∧ ∀ s ∈ spec.typeArgs, PatternsCompile s := by
  rw [h.components_eq] at hspec
  obtain ⟨⟨⟩, hparsers, hargs⟩ := ok_of_bind (forM_eq_ok_iff.mp h.checked spec hspec)
  exact ⟨hparsers, fun s hs => checkDefinition_eq_ok_iff.mp (forM_eq_ok_iff.mp hargs s hs)⟩

theorem not_mem_skippedRules {rule : BodyRule} (hown : rule ∉ payload.options.skippedRules)
    (hshared : rule ∉ defaults.skippedRules) : rule ∉ c.skippedRules := by
  intro hmem
  rw [h.skippedRules_eq, mem_union] at hmem
  exact hmem.elim hown hshared

theorem component_ne_body (hkept : .emptyRequestBody ∉ c.skippedRules)
    (hmethod : c.method ∈ ["get", "head", "delete", "connect", "trace"])
    {spec : ComponentSpec} (hspec : spec ∈ c.components) : spec.component ≠ .body := by
  intro hbody
  have hrule : c.skippedRules.contains .emptyRequestBody = false := by
    rw [← Bool.not_eq_true, List.contains_iff_mem]
    exact hkept
  have hcomponent : c.hasComponent Component.body.contextName = true :=
    List.any_eq_true.mpr ⟨spec, hspec, beq_iff_eq.mpr (congrArg Component.contextName hbody)⟩
  have hwithout : methodsWithoutBody.contains c.method = true := List.contains_iff_mem.mpr hmethod
  have hrefused : ∃ failure, c.checkRequestBody endpoint = .error failure := by
    rw [checkRequestBody, hrule, hcomponent, hwithout]
    exact ⟨_, rfl⟩
  obtain ⟨failure, hrefused⟩ := hrefused
  cases hrefused.symm.trans h.requestBody

theorem exists_readsFiles {spec : ComponentSpec} (hspec : spec ∈ c.components)
    (hfiles : spec.component = .fileMetadata) : ∃ e ∈ c.parsers, e.2.readsFiles = true := by
  have hparsers := (h.checkComponent hspec).1
  rw [hfiles] at hparsers
  simp only [Component.fileMetadata] at hparsers
  split at hparsers
  · next hany =>
    obtain ⟨e, he, hreads⟩ := List.any_eq_true.mp hany
    exact ⟨e, he, hreads⟩
  · cases hparsers

end Built

/-- A contract that is built of built-in components is well formed. -/
theorem wellFormed_of_build (builtIn : ∀ spec ∈ components, spec.component ∈ Component.all)
    (apart : ∀ spec ∈ c.declaredSpecs payload defaults, spec.NamesApart)
    (built : build endpoint payload defaults components methodName = .ok c) :
    WellFormed payload defaults c := by
  have h := build_eq_ok_iff.mp built
  have builtIn : ∀ spec ∈ c.components, spec.component ∈ Component.all := h.components_eq ▸ builtIn
  have hall : c.responses = ResponseSpecs.ofList (c.allSpecs payload defaults) :=
    responses_of_checkSpecs h.responses
  have hcompile : ∀ spec ∈ c.responses, PatternsCompile spec.returnType :=
    fun spec hspec => h.specsChecked.compile spec (h.mem_allSpecs hspec)
  have hcomponents : ∀ spec ∈ c.components, RequestModel.Compiles spec := fun spec hspec =>
    compiles_of_typeArgs (builtIn spec hspec) (h.checkComponent hspec).2
  constructor
  case parsers => exact ne_nil_of_ownOrShared h.parsers
  case renderers => exact ne_nil_of_ownOrShared h.renderers
  case modification => exact modification_of_modificationOf h.modification
  case ownStatus =>
    rw [hall]
    exact fun spec hspec => ResponseSpecs.find?_self (ResponseSpecs.nodup_ofList _) hspec
  case declared =>
    rw [hall]
    have hapart : ∀ spec ∈ c.allSpecs payload defaults, spec.NamesApart := by
      intro spec hspec
      rcases List.mem_append.mp hspec with hspec | hspec
      · exact apart spec hspec
      · exact namesApart_of_mem_impliedSpecs (ResponseSpecs.mem_of_mem_missing hspec)
    exact fun spec hspec =>
      same_of_kept h.specsChecked.unique hapart (List.mem_append_left _ hspec)
  case implied =>
    exact fun spec hspec => declared_or_implied builtIn (h.mem_allSpecs hspec)
  case noCookieHeader => exact fun spec hspec => h.specsChecked.headers spec (h.mem_allSpecs hspec)
  case bodylessStatus =>
    exact fun hown hshared spec hspec =>
      h.specsChecked.bodyless (h.not_mem_skippedRules hown hshared) spec (h.mem_allSpecs hspec)
  case bodylessMethod =>
    exact fun hown hshared hmethod spec hspec =>
      h.component_ne_body (h.not_mem_skippedRules hown hshared) hmethod hspec
  case responsesCompile => exact hcompile
  case componentsCompile => exact fun spec hspec => (h.checkComponent hspec).2
  case requestsUntold =>
    exact fun blueprint strict r members f hf =>
      Failure.not_refusesPattern (RequestModel.allOther_of_check hcomponents hf)
  case responsesUntold =>
    exact fun strict request r d f hf =>
      Failure.not_refusesPattern (ResponseCheck.allOther_of_accept rfl hcompile hf)
  case rawUntold =>
    exact fun strict v d f hf =>
      Failure.not_refusesPattern (ResponseCheck.allOther_of_acceptRaw rfl hcompile hf)
  case files => exact fun spec hspec => h.exists_readsFiles hspec

def tagSchema : Schema := .string none none (some "^[a-z]+$")

def untagged : ResponseSpec := { returnType := .null, status := .noContent }

def tagPayload : Payload Id where
  raw? := some { returnType := tagSchema }
  responses := [untagged]

def tagDefaults : EndpointDefaults Id where
  responses := [untagged]
  parsers := [("application/json", .json)]
  renderers := [("application/json", .json)]

def tagQuery : ComponentSpec where
  component := .query
  typeArgs := [.object { name := "Tag", fields := [("tag", { schema := tagSchema })] }]

def tagContract : Contract Id where
  method := "get"
  responses := [untagged, { returnType := tagSchema, status := .ok },
    failureSpec .badRequest "Raised when request components cannot be parsed",
    failureSpec .unprocessable "Raised when returned response does not match the response schema",
    failureSpec .notAcceptable "Raised when provided `Accept` header cannot be satisfied"]
  modification := some { returnType := tagSchema, status := .ok }
  components := [tagQuery]
  parsers := [("application/json", .json)]
  renderers := [("application/json", .json)]

theorem tagContract_allSpecs : tagContract.allSpecs tagPayload tagDefaults =
    untagged :: tagContract.responses := rfl

theorem tagContract_checked :
    tagContract.checkSpecs "Tags.get" (tagContract.allSpecs tagPayload tagDefaults) =
      .ok tagContract.responses := by
  have hcompile : ∀ spec ∈ tagContract.responses, PatternsCompile spec.returnType := by
    simp only [tagContract, List.forall_mem_cons, List.not_mem_nil, false_implies, implies_true,
      and_true]
    decide +kernel
  rw [tagContract_allSpecs]
  refine (bind_of_ok (a := ()) rfl _).trans ((bind_of_ok (a := ()) ?_ _).trans ?_)
  · refine forM_eq_ok_iff.mpr (List.forall_mem_cons.mpr ⟨rfl, fun spec hspec => ?_⟩)
    exact checkDefinition_eq_ok_iff.mpr (hcompile spec hspec)
  · rfl

theorem tagContract_built :
    build "Tags.get" tagPayload tagDefaults [tagQuery] "get" = .ok tagContract := by
  have hquery : tagContract.checkComponent tagQuery = .ok () := by
    refine (bind_of_ok (a := ()) rfl _).trans (forM_eq_ok_iff.mpr fun s hs => ?_)
    rw [List.mem_singleton.mp hs]
    exact checkDefinition_eq_ok_iff.mpr (by decide +kernel)
  refine build_eq_ok_iff.mpr ⟨?_, rfl, rfl, rfl, tagContract_checked, ?_, ?_, rfl⟩
  · with_unfolding_all rfl
  · with_unfolding_all rfl
  · exact forM_eq_ok_iff.mpr fun spec hspec => List.mem_singleton.mp hspec ▸ hquery

theorem tagContract_wellFormed : WellFormed tagPayload tagDefaults tagContract := by
  refine wellFormed_of_build ?_ ?_ tagContract_built
  · intro spec hspec
    rw [List.mem_singleton.mp hspec]
    exact List.mem_cons_self
  · have huntagged : untagged.NamesApart :=
      ⟨everywhere_null.mpr trivial, fun _ h => (nomatch h), fun _ h => (nomatch h)⟩
    have htag : (modificationFor "get" { returnType := tagSchema }).toSpec.NamesApart :=
      ⟨everywhere_string.mpr trivial, fun _ h => (nomatch h), fun _ h => (nomatch h)⟩
    intro spec hspec
    have hdeclared : tagContract.declaredSpecs tagPayload tagDefaults =
        [untagged, untagged, (modificationFor "get" { returnType := tagSchema }).toSpec] := rfl
    rw [hdeclared, List.mem_cons, List.mem_cons, List.mem_singleton] at hspec
    rcases hspec with rfl | rfl | rfl
    · exact huntagged
    · exact huntagged
    · exact htag

end Contract

end Accord
