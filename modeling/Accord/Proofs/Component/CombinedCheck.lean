import Accord.Proofs.Component.EffectiveModel
import Accord.Proofs.Component.Taking
import Accord.Proofs.Schema.Silence

namespace Accord

open Schema

/-- The data of a component, checked on its own. -/
def ComponentSpec.verdict (contentType : Option String) (strict : Option Bool)
    (spec : ComponentSpec) (data : Json) : Except (List Detail) Json :=
  (spec.effectiveModel contentType).validate data strict

/-- What is wrong with the data of a component, under its name. -/
def ComponentSpec.details (contentType : Option String) (strict : Option Bool)
    (spec : ComponentSpec) (data : Json) : List Detail :=
  match spec.verdict contentType strict data with
  | .ok _ => []
  | .error details => details.map (Detail.under [.key spec.contextName])

variable {contentType : Option String} {strict : Option Bool} {spec : ComponentSpec} {data : Json}

theorem ComponentSpec.details_eq (contentType : Option String) (strict : Option Bool)
    (spec : ComponentSpec) (data : Json) :
    spec.details contentType strict data =
      (((spec.effectiveModel contentType).outcome data ⟨strict, false⟩).2).map
        (Detail.under [.key spec.contextName]) := by
  simp only [ComponentSpec.details, ComponentSpec.verdict, validate_eq]
  rcases (spec.effectiveModel contentType).outcome data ⟨strict, false⟩ with ⟨out, _ | ⟨d, ds⟩⟩ <;>
    rfl

theorem ComponentSpec.verdict_eq_ok_iff (h : ChoicesInhabited (spec.effectiveModel contentType))
    {w : Json} :
    spec.verdict contentType strict data = .ok w ↔
      ((spec.effectiveModel contentType).outcome data ⟨strict, false⟩).1 = some w := by
  rw [ComponentSpec.verdict, validate_eq_ok_iff]
  constructor
  · rintro (ho | ⟨hover, -⟩)
    · rw [ho]
    · exact absurd hover (not_passedOver_of_choicesInhabited h)
  · intro ho
    exact Or.inl (Prod.ext ho (details_eq_nil_of_output ho))

theorem ComponentSpec.details_eq_nil_iff (h : ChoicesInhabited (spec.effectiveModel contentType)) :
    spec.details contentType strict data = [] ↔
      ∃ w, spec.verdict contentType strict data = .ok w := by
  rw [ComponentSpec.details_eq, List.map_eq_nil_iff]
  constructor
  · intro hnil
    rcases accepts_or_details_of_choicesInhabited h data ⟨strict, false⟩ with ⟨w, ho⟩ | ⟨-, hd⟩
    · exact ⟨w, (ComponentSpec.verdict_eq_ok_iff h).mpr (congrArg Prod.fst ho)⟩
    · exact absurd hnil hd
  · rintro ⟨w, hw⟩
    exact details_eq_nil_of_output ((ComponentSpec.verdict_eq_ok_iff h).mp hw)

namespace RequestModel

def fieldsFor (contentType : Option String) (specs : List ComponentSpec) :
    List (String × Field Schema) :=
  specs.map fun spec => (spec.contextName, { schema := spec.effectiveModel contentType })

variable {specs : List ComponentSpec} {taken : List (ComponentSpec × Json)}

theorem names_membersOf (taken : List (ComponentSpec × Json)) :
    (membersOf taken).map Prod.fst = (taken.map Prod.fst).map ComponentSpec.contextName := by
  rw [membersOf, List.map_map, List.map_map]
  rfl

theorem combined_eq (name : String) (distinct : (specs.map ComponentSpec.contextName).Nodup) :
    combined name (specs.map fun spec => (spec.contextName, spec.effectiveModel contentType)) =
      .object { name := name, fields := fieldsFor contentType specs } := by
  rw [combined, Model.ofSchemas, List.map_map, Named.ofList_eq_self]
  · rfl
  · exact nodup_names_specs _ distinct

theorem fieldOutcome_component
    (distinct : ((taken.map Prod.fst).map ComponentSpec.contextName).Nodup)
    (h : (spec, data) ∈ taken) (mode : Mode) :
    fieldOutcome (Json.sortMembers (membersOf taken)) mode spec.contextName
        { schema := spec.effectiveModel contentType } =
      placed [.key spec.contextName] []
        ((spec.effectiveModel contentType).outcome data mode) := by
  have hnames : ((membersOf taken).map Prod.fst).Nodup := (names_membersOf taken).symm ▸ distinct
  have hmem : (spec.contextName, data) ∈ membersOf taken := List.mem_map.mpr ⟨_, h, rfl⟩
  have hlookup : (Json.sortMembers (membersOf taken)).lookup spec.contextName = some data := by
    rw [Json.lookup_sortMembers, Named.lookup_reverse hnames, Named.lookup_iff_mem hnames]
    exact hmem
  simp only [fieldOutcome, Field.wireName, Option.getD_none, memberFor, hlookup]

theorem fieldDetails_components
    (distinct : ((taken.map Prod.fst).map ComponentSpec.contextName).Nodup) :
    fieldDetails (Json.sortMembers (membersOf taken)) ⟨strict, false⟩
        (fieldsFor contentType (taken.map Prod.fst)) =
      taken.flatMap fun (spec, data) => spec.details contentType strict data := by
  rw [fieldDetails, fieldsFor, List.map_map, List.flatMap_map]
  refine List.flatMap_congr fun e he => ?_
  obtain ⟨spec, data⟩ := e
  have hfield : fieldOutcome (Json.sortMembers (membersOf taken)) ⟨strict, false⟩
      spec.contextName { schema := spec.effectiveModel contentType } =
      placed [.key spec.contextName] []
        ((spec.effectiveModel contentType).outcome data ⟨strict, false⟩) :=
    fieldOutcome_component distinct he ⟨strict, false⟩
  have hdetails := ComponentSpec.details_eq contentType strict spec data
  exact (congrArg Prod.snd hfield).trans hdetails.symm

theorem mem_fieldOutputs_components
    (distinct : ((taken.map Prod.fst).map ComponentSpec.contextName).Nodup)
    (h : ∀ e ∈ taken, ChoicesInhabited (e.1.effectiveModel contentType)) {name : String} {w : Json} :
    (name, w) ∈ fieldOutputs (Json.sortMembers (membersOf taken)) ⟨strict, false⟩
        (fieldsFor contentType (taken.map Prod.fst)) ↔
      ∃ e ∈ taken, e.1.contextName = name ∧ e.1.verdict contentType strict e.2 = .ok w := by
  rw [mem_fieldOutputs]
  constructor
  · rintro ⟨f, hf, ho⟩
    obtain ⟨spec, hspec, hfield⟩ := List.mem_map.mp hf
    obtain ⟨e, he, rfl⟩ := List.mem_map.mp hspec
    cases hfield
    rw [fieldOutcome_component distinct he] at ho
    exact ⟨e, he, rfl, (ComponentSpec.verdict_eq_ok_iff (h e he)).mpr ho⟩
  · rintro ⟨e, he, rfl, hw⟩
    refine ⟨_, List.mem_map.mpr ⟨e.1, List.mem_map_of_mem he, rfl⟩, ?_⟩
    rw [fieldOutcome_component distinct he]
    exact (ComponentSpec.verdict_eq_ok_iff (h e he)).mp hw

theorem lookup_fieldOutputs_components
    (distinct : ((taken.map Prod.fst).map ComponentSpec.contextName).Nodup)
    (h : ∀ e ∈ taken, ChoicesInhabited (e.1.effectiveModel contentType)) {name : String} {w : Json} :
    (Json.sortMembers (fieldOutputs (Json.sortMembers (membersOf taken)) ⟨strict, false⟩
        (fieldsFor contentType (taken.map Prod.fst)))).lookup name = some w ↔
      ∃ e ∈ taken, e.1.contextName = name ∧ e.1.verdict contentType strict e.2 = .ok w := by
  have hfields : ((fieldsFor contentType (taken.map Prod.fst)).map Prod.fst).Nodup :=
    nodup_names_specs _ distinct
  rw [lookup_sorted_fieldOutputs hfields, ← mem_fieldOutputs]
  exact mem_fieldOutputs_components distinct h

/-- The combined check either says what is wrong with the components, or gives an object of the
checked data. -/
theorem check_components (blueprint : String) (r : Request)
    (distinct : ((taken.map Prod.fst).map ComponentSpec.contextName).Nodup) :
    (ofSpecs blueprint (taken.map Prod.fst) strict).check .json r
        (Json.sortMembers (membersOf taken)) =
      if (taken.flatMap fun (spec, data) => spec.details r.contentType? strict data) = [] then
        .ok ⟨Json.sortMembers (fieldOutputs (Json.sortMembers (membersOf taken)) ⟨strict, false⟩
          (fieldsFor r.contentType? (taken.map Prod.fst)))⟩
      else
        .error (.invalid (taken.flatMap fun (spec, data) =>
          spec.details r.contentType? strict data) .badRequest) := by
  obtain ⟨name, hmodel⟩ := modelFor_eq blueprint strict r.contentType? distinct
  have hcombined := hmodel.trans (combined_eq name distinct)
  have hwalk : fieldDetails (Json.sortMembers (membersOf taken)) ⟨strict, false⟩
      (fieldsFor r.contentType? (taken.map Prod.fst)) =
      taken.flatMap fun (spec, data) => spec.details r.contentType? strict data :=
    fieldDetails_components distinct
  have hstrict : (ofSpecs blueprint (taken.map Prod.fst) strict).strict = strict := rfl
  simp only [check, hcombined, hstrict, Serializer.json, validate_eq, outcome_object,
    objectOutcome, objectDetails, Mode.inside, Option.getD_none, hwalk, Bool.false_eq_true, if_false,
    List.append_nil]
  cases hdetails : taken.flatMap fun (spec, data) => spec.details r.contentType? strict data with
  | nil => rfl
  | cons d ds => rfl

theorem parse_components {parsers : BodyParsers} {r : Request} {d d₁ : Decisions}
    (blueprint : String) (distinct : ((taken.map Prod.fst).map ComponentSpec.contextName).Nodup)
    (h : Taken parsers r d taken d₁) :
    ((ofSpecs blueprint (taken.map Prod.fst) strict).parse parsers .json r).run.run d =
      ((ofSpecs blueprint (taken.map Prod.fst) strict).check .json r
        (Json.sortMembers (membersOf taken)), d₁) := by
  by_cases hsome : taken = []
  -- Without components no check is made; one of an empty object comes to the same.
  · subst hsome
    cases h
    rw [check_components blueprint r distinct]
    rfl
  · exact parse_of_taken rfl hsome h .json

/-- Parsing the components of a request comes to checking each of them on its own against the model
that is in effect for it. Where all data can be taken, the request is refused for what is wrong with
the components, in order and each under its name; if nothing is wrong, exactly the names of the
components mean their checked data. The first failure to take data is the answer whatever the
serializer would say. -/
theorem parse_componentwise (blueprint : String) (specs : List ComponentSpec) (strict : Option Bool)
    (parsers : BodyParsers) (r : Request) (d : Decisions)
    (distinct : (specs.map ComponentSpec.contextName).Nodup)
    (inhabited : ∀ spec ∈ specs, ChoicesInhabited (spec.effectiveModel r.contentType?)) :
    (∀ taken d₁, specs = taken.map Prod.fst → Taken parsers r d taken d₁ →
      ((∃ p, ((ofSpecs blueprint specs strict).parse parsers .json r).run.run d = (.ok p, d₁)) ↔
        ∀ e ∈ taken, ∃ w, e.1.verdict r.contentType? strict e.2 = .ok w) ∧
      (∀ p d₂, ((ofSpecs blueprint specs strict).parse parsers .json r).run.run d = (.ok p, d₂) →
        d₂ = d₁ ∧ Json.KeysAscending p.values ∧
        ∀ name w, p.values.lookup name = some w ↔
          ∃ e ∈ taken, e.1.contextName = name ∧ e.1.verdict r.contentType? strict e.2 = .ok w) ∧
      ((¬∀ e ∈ taken, ∃ w, e.1.verdict r.contentType? strict e.2 = .ok w) →
        ((ofSpecs blueprint specs strict).parse parsers .json r).run.run d =
          (.error (.invalid (taken.flatMap fun (spec, data) =>
            spec.details r.contentType? strict data) .badRequest), d₁))) ∧
    (∀ taken spec after d₁ failure d₂, specs = taken.map Prod.fst ++ spec :: after →
      Taken parsers r d taken d₁ → spec.take parsers r d₁ = (.error failure, d₂) →
      ∀ serializer, ((ofSpecs blueprint specs strict).parse parsers serializer r).run.run d =
        (.error failure, d₂)) ∧
    ((∃ taken d₁, specs = taken.map Prod.fst ∧ Taken parsers r d taken d₁) ∨
      ∃ taken spec after d₁ failure d₂, specs = taken.map Prod.fst ++ spec :: after ∧
        Taken parsers r d taken d₁ ∧ spec.take parsers r d₁ = (.error failure, d₂)) := by
  refine ⟨?_, fun taken spec after d₁ failure d₂ hspecs htaken hfails serializer =>
    parse_of_first_failure hspecs htaken hfails serializer, taken_or_first_failure parsers r specs d⟩
  rintro taken d₁ rfl htaken
  have hinhabited : ∀ e ∈ taken, ChoicesInhabited (e.1.effectiveModel r.contentType?) :=
    fun e he => inhabited e.1 (List.mem_map_of_mem he)
  have hvalid : (taken.flatMap fun (spec, data) => spec.details r.contentType? strict data) = [] ↔
      ∀ e ∈ taken, ∃ w, e.1.verdict r.contentType? strict e.2 = .ok w := by
    rw [List.flatMap_eq_nil_iff]
    exact forall₂_congr fun e he => ComponentSpec.details_eq_nil_iff (hinhabited e he)
  rw [parse_components blueprint distinct htaken, check_components blueprint r distinct]
  refine ⟨?_, ?_, ?_⟩
  · rw [← hvalid]
    constructor
    · rintro ⟨p, hp⟩
      split at hp
      · assumption
      · cases hp
    · intro hnil
      rw [if_pos hnil]
      exact ⟨_, rfl⟩
  · intro p d₂ hp
    split at hp
    · cases hp
      exact ⟨rfl, Json.sortMembers_ascending _,
        fun name w => lookup_fieldOutputs_components distinct hinhabited⟩
    · cases hp
  · intro hinvalid
    rw [if_neg (mt hvalid.mp hinvalid)]

def pagePath : ComponentSpec where
  component := .path
  typeArgs := [.object { name := "Page", fields := [("page", { schema := plainInteger })] }]

def markedBody : ComponentSpec where
  component := .body
  typeArgs := [.conditional
    [("application/json", plainString), ("text/plain; charset=utf-8", listOf .boolean)]]

def plainParsers : BodyParsers :=
  [("text/plain",
    { contentType := "text/plain"
      read := fun body _ _ => pure (.array (body.map fun b => .int b.toNat)) })]

def pageRequest : Request where
  method := "POST"
  uri := .root
  headers := ⟨[("content-type", "text/plain".toList.map fun c => c.toNat.toUInt8)]⟩
  body := [1, 7]
  pathParams := [("page", "x")]

theorem page_request_refused :
    ([pagePath, markedBody].map ComponentSpec.contextName).Nodup ∧
    (∀ spec ∈ [pagePath, markedBody],
      ChoicesInhabited (spec.effectiveModel pageRequest.contentType?)) ∧
    ∃ d, ((ofSpecs "Pages" [pagePath, markedBody] none).parse plainParsers .json
        pageRequest).run.run {} = (.error (.invalid
      [⟨"Input should be a valid integer, unable to parse string as an integer",
          some [.key "parsed_path", .key "page"], "int_parsing"⟩,
        ⟨"Input should be a valid boolean, unable to interpret input",
          some [.key "parsed_body", .index 1], "bool_parsing"⟩] .badRequest), d) := by
  have distinct : ([pagePath, markedBody].map ComponentSpec.contextName).Nodup := by decide
  have inhabited : ∀ spec ∈ [pagePath, markedBody],
      ChoicesInhabited (spec.effectiveModel pageRequest.contentType?) := by
    have hpath : pagePath.effectiveModel pageRequest.contentType? =
        .object { name := "Page", fields := [("page", { schema := plainInteger })] } := rfl
    have hbody : markedBody.effectiveModel pageRequest.contentType? = listOf .boolean := rfl
    simp [hpath, hbody, ChoicesInhabited, IsEmptyChoice, listOf, plainInteger]
  have hparse := parse_componentwise "Pages" [pagePath, markedBody] none plainParsers pageRequest {}
    distinct inhabited
  have htaken : Taken plainParsers pageRequest {}
      [(pagePath, .object [("page", .string "x")]), (markedBody, .array [.int 1, .int 7])]
      { parser? := plainParsers.lookup "text/plain" } := .cons rfl (.cons rfl .nil)
  have hwrong : ∀ w, pagePath.verdict pageRequest.contentType? none
      (.object [("page", .string "x")]) ≠ .ok w := fun w hw => nomatch hw
  refine ⟨distinct, inhabited, _, (hparse.1 _ _ rfl htaken).2.2 fun hvalid => ?_⟩
  obtain ⟨w, hw⟩ := hvalid _ List.mem_cons_self
  exact hwrong w hw

end RequestModel

end Accord
