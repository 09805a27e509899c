import Accord.Proofs.Component.CombinedCheck
import Accord.Proofs.Component.Refusing
import Accord.Proofs.Media
import Accord.Proofs.Message.Query

namespace Accord

theorem Schema.mem_forceListKeys_conditional {mapping : List (String × Schema)} {name : String} :
    name ∈ (conditional mapping).forceListKeys ↔ ∃ e ∈ mapping, name ∈ e.2.forceListKeys := by
  rw [forceListKeys, Text.mem_sortedSet]
  induction mapping with
  | nil => simp [memberKeys]
  | cons e rest ih => simp [memberKeys, ih]

/-- The fields that a parser reads of the body of a request, while this form is kept. -/
inductive BodyParser.ReadsFields (r : Request) (slot : Slot Form) :
    BodyParser → List (String × String) → Prop
  | json : ReadsFields r slot .json []
  | posted {alsoPosted : List String} : FormRules.carriesForm alsoPosted r.method = true →
      ReadsFields r slot (.form alsoPosted) (Query.readPairs r.body)
  | unposted {alsoPosted : List String} : FormRules.carriesForm alsoPosted r.method = false →
      ReadsFields r slot (.form alsoPosted) []
  | parts {rules : FormRules} {form : Form} : rules.found r slot = .ok form →
      ReadsFields r slot (.multipart rules) form.fields
  | unreadable {rules : FormRules} {failure : Failure} : rules.found r slot = .error failure →
      ReadsFields r slot (.multipart rules) []

theorem Query.toMembers_texts_eq_iff (forced forced' : List String) (fields : List (String × String)) :
    toMembers forced (fields.map fun (name, value) => (name, .string value)) =
        toMembers forced' (fields.map fun (name, value) => (name, .string value)) ↔
      ∀ field ∈ fields, (field.1 ∈ forced ↔ field.1 ∈ forced') := by
  rw [toMembers_eq_iff, List.forall_mem_map]
  rintro e he
  obtain ⟨field, -, rfl⟩ := List.mem_map.mp he
  exact ⟨field.2, rfl⟩

namespace BodyParser

variable {p : BodyParser} {r : Request} {s s' : Schema} {slot : Slot Form}
  {fields : List (String × String)}

theorem BuiltIn.reads_fields (h : p.BuiltIn) (r : Request) (slot : Slot Form) :
    ∃ fields, p.ReadsFields r slot fields := by
  cases h with
  | json => exact ⟨[], .json⟩
  | form alsoPosted =>
    cases hcarried : FormRules.carriesForm alsoPosted r.method with
    | true => exact ⟨_, .posted hcarried⟩
    | false => exact ⟨_, .unposted hcarried⟩
  | multipart rules =>
    cases hfound : rules.found r slot with
    | ok form => exact ⟨_, .parts hfound⟩
    | error failure => exact ⟨_, .unreadable hfound⟩

theorem ReadsFields.read_eq_iff (h : p.ReadsFields r slot fields) :
    p.read r.body r s slot = p.read r.body r s' slot ↔
      ∀ field ∈ fields, (field.1 ∈ s.forceListKeys ↔ field.1 ∈ s'.forceListKeys) := by
  rw [← Query.toMembers_texts_eq_iff]
  cases h with
  | json => simp only [read_json, List.map_nil, Query.toMembers, List.foldl_nil]
  | posted carried =>
    simp only [read_form, if_pos carried, Except.ok.injEq, Prod.mk.injEq, Json.object.injEq, and_true]
  | unposted uncarried =>
    simp only [read_form, uncarried, Bool.false_eq_true, if_false, List.map_nil, Query.toMembers,
      List.foldl_nil]
  | parts hfound =>
    simp only [read_multipart, hfound, Except.map, Except.ok.injEq, Prod.mk.injEq,
      Json.object.injEq, and_true]
  | unreadable hfound =>
    simp only [read_multipart, hfound, Except.map, List.map_nil, Query.toMembers, List.foldl_nil]

/-- All members of a mapping and one of them read alike where no other forces a field that this one does
not force. -/
theorem ReadsFields.read_conditional_iff (h : p.ReadsFields r slot fields)
    {mapping : List (String × Schema)} {key : String} {member : Schema}
    (hmember : (key, member) ∈ mapping) :
    p.read r.body r (.conditional mapping) slot = p.read r.body r member slot ↔
      ∀ field ∈ fields, ∀ e ∈ mapping, field.1 ∈ e.2.forceListKeys →
        field.1 ∈ member.forceListKeys := by
  rw [h.read_eq_iff]
  refine forall₂_congr fun field _ => ?_
  rw [Schema.mem_forceListKeys_conditional]
  constructor
  · exact fun halike e he hforced => halike.mp ⟨e, he, hforced⟩
  · exact fun halike =>
      ⟨fun ⟨e, he, hforced⟩ => halike e he hforced, fun hforced => ⟨_, hmember, hforced⟩⟩

end BodyParser

/-- A serializer that checks the data of components by the fields of their model, whatever its name, and
makes an object of them. -/
structure Serializer.ByFields (serializer : Serializer) : Prop where
  nameless (name name' : String) (fields : Named Schema) (members : List (String × Json))
    (strict : Option Bool) :
    serializer.check (.object members) (RequestModel.combined name fields) strict =
      serializer.check (.object members) (RequestModel.combined name' fields) strict
  object {name : String} {fields : Named Schema} {members : List (String × Json)}
    {strict : Option Bool} {w : Json} :
    serializer.check (.object members) (RequestModel.combined name fields) strict = .ok w →
      ∃ values, w = .object values

theorem Serializer.json_byFields : Serializer.json.ByFields where
  nameless name name' fields members strict := by
    simp only [json, RequestModel.combined, Model.ofSchemas, Schema.validate_eq,
      Schema.outcome_object, Schema.objectOutcome, Schema.objectDetails, Schema.Mode.inside]
    rfl
  object := Schema.object_of_validate

def ComponentSpec.bodyOf (model : Schema) (rest : List Schema) : ComponentSpec := ⟨.body, model :: rest⟩

namespace ComponentSpec

variable {mapping : List (String × Schema)} {key : String} {member : Schema} {rest : List Schema}

theorem conditionalModel?_bodyOf (distinct : (mapping.map fun e => (MediaType.read e.1).essence).Nodup)
    (hmember : (key, member) ∈ mapping) :
    (bodyOf (.conditional mapping) rest).conditionalModel? (MediaType.read key).essence =
      some member := by
  have htypes : (bodyOf (.conditional mapping) rest).conditionalTypes = mapping := rfl
  rw [conditionalModel?, htypes, Named.find?_eq_lookup_map fun key => (MediaType.read key).essence,
    List.map_reverse, Named.lookup_reverse, Named.lookup_iff_mem]
  · exact List.mem_map.mpr ⟨_, hmember, rfl⟩
  -- both times the names are the essences of the keys
  all_goals
    rw [List.map_map]
    exact distinct

theorem conditionalModel?_bodyOf_eq_none {essence : String}
    (direct : ∀ inner, member.mapping? = some inner →
      ∀ e ∈ inner, (MediaType.read e.1).essence ≠ essence) :
    (bodyOf member rest).conditionalModel? essence = none := by
  have htypes : (bodyOf member rest).conditionalTypes = member.mapping?.getD [] := rfl
  rw [conditionalModel?, htypes, Option.map_eq_none_iff, List.find?_eq_none]
  intro e he hessence
  cases hmapping : member.mapping? with
  | none =>
    rw [hmapping] at he
    cases he
  | some inner =>
    rw [hmapping] at he
    exact direct inner hmapping e (List.mem_reverse.mp he) (beq_iff_eq.mp hessence)

theorem take_bodyOf_congr {parsers : BodyParsers} {r : Request} {d : Decisions} {s s' : Schema}
    (h : ∀ p d₁, (Serving.parser parsers r).run.run d = (.ok p, d₁) →
      p.read r.body r s d₁.form? = p.read r.body r s' d₁.form?) :
    (bodyOf s rest).take parsers r d = (bodyOf s' rest).take parsers r d := by
  have htake : ∀ s, (bodyOf s rest).take parsers r d =
      (Component.bodyData parsers r s).run.run d := fun _ => rfl
  rw [htake, htake, Component.bodyData, Component.bodyData, Serving.run_bind, Serving.run_bind]
  rcases hparser : (Serving.parser parsers r).run.run d with ⟨failure | p, d₁⟩
  · rfl
  · simp only [Serving.run_adapt, Serving.run_withForm, h p d₁ hparser]

end ComponentSpec

namespace RequestModel

variable {parsers : BodyParsers} {r : Request} {d : Decisions} {before after : List ComponentSpec}
  {spec spec' : ComponentSpec} {m m' : RequestModel} {essence name : String}

def fieldsAt (essence : String) (specs : List ComponentSpec) : Named Schema :=
  Named.putAll (Named.ofList (replacements essence specs)) (fieldsOf specs)

theorem lookup_fieldsAt (essence name : String) (specs : List ComponentSpec) :
    (fieldsAt essence specs).lookup name =
      ((replacements essence specs).reverse.lookup name).or
        ((specs.map fun spec => (spec.contextName, spec.model)).reverse.lookup name) := by
  rw [fieldsAt, Named.lookup_putAll_ofList, fieldsOf, Named.lookup_ofList]

theorem lookup_models_of_absent {specs : List ComponentSpec}
    (h : ∀ spec ∈ specs, spec.contextName ≠ name) :
    (specs.map fun spec => (spec.contextName, spec.model)).reverse.lookup name = none := by
  rw [Named.lookup_eq_none_iff_not_mem, List.map_reverse, List.mem_reverse, names_specs]
  intro hname
  obtain ⟨spec, hspec, rfl⟩ := List.mem_map.mp hname
  exact h spec hspec rfl

theorem lookup_fieldsAt_self
    (others : ∀ other ∈ before ++ after, other.contextName ≠ spec.contextName) :
    (fieldsAt essence (before ++ spec :: after)).lookup spec.contextName =
      some ((spec.conditionalModel? essence).getD spec.model) := by
  obtain ⟨-, hafter⟩ := List.forall_mem_append.mp others
  have hmodel : ((before ++ spec :: after).map fun spec =>
      (spec.contextName, spec.model)).reverse.lookup spec.contextName = some spec.model := by
    rw [List.map_append, List.map_cons, List.reverse_append, List.reverse_cons, List.lookup_append,
      List.lookup_append, lookup_models_of_absent hafter, Option.none_or, List.lookup_cons_self,
      Option.some_or]
  rw [lookup_fieldsAt, lookup_replacements_of_alone others, hmodel]
  cases spec.conditionalModel? essence <;> rfl

theorem lookup_fieldsAt_of_ne (h : name ≠ spec.contextName) :
    (fieldsAt essence (before ++ spec :: after)).lookup name =
      (fieldsAt essence (before ++ after)).lookup name := by
  have hreplaced : (replacements essence (before ++ spec :: after)).reverse.lookup name =
      (replacements essence (before ++ after)).reverse.lookup name := by
    rw [replacements_append, replacements_append, replacements_cons, List.reverse_append,
      List.reverse_append, List.reverse_append, List.lookup_append, List.lookup_append,
      List.lookup_append, ComponentSpec.lookup_replacements_of_ne h, Option.or_none]
  have hmodel : ((before ++ spec :: after).map fun spec =>
      (spec.contextName, spec.model)).reverse.lookup name =
      ((before ++ after).map fun spec => (spec.contextName, spec.model)).reverse.lookup name := by
    rw [List.map_append, List.map_append, List.map_cons, List.reverse_append, List.reverse_append,
      List.reverse_cons, List.lookup_append, List.lookup_append, List.lookup_append,
      Named.lookup_cons_ite, if_neg h, List.lookup_nil, Option.or_none]
  rw [lookup_fieldsAt, lookup_fieldsAt, hreplaced, hmodel]

theorem fieldsAt_congr (hname : spec.contextName = spec'.contextName)
    (others : ∀ other ∈ before ++ after, other.contextName ≠ spec.contextName)
    (hmodel : (spec.conditionalModel? essence).getD spec.model =
      (spec'.conditionalModel? essence).getD spec'.model) :
    fieldsAt essence (before ++ spec :: after) = fieldsAt essence (before ++ spec' :: after) := by
  have hnames : (fieldsAt essence (before ++ spec :: after)).names =
      (fieldsAt essence (before ++ spec' :: after)).names := by
    rw [fieldsAt, fieldsAt, names_putAll_replacements, names_putAll_replacements]
    refine Named.names_ofList_congr ?_
    rw [names_specs, names_specs, List.map_append, List.map_append, List.map_cons, List.map_cons,
      hname]
  have distinct : (fieldsAt essence (before ++ spec :: after)).names.Nodup := by
    rw [fieldsAt, names_putAll_replacements]
    exact Named.nodup_names_ofList _
  refine Named.ext_of_lookup hnames distinct fun name _ => ?_
  by_cases h : name = spec.contextName
  · rw [h, lookup_fieldsAt_self others, hmodel, hname, lookup_fieldsAt_self (hname ▸ others)]
  · rw [lookup_fieldsAt_of_ne h, lookup_fieldsAt_of_ne (hname ▸ h)]

theorem extract_congr (hspecs : m.specs = before ++ spec :: after)
    (hspecs' : m'.specs = before ++ spec' :: after) (hname : spec.contextName = spec'.contextName)
    (htake : ∀ taken d₁, before = taken.map Prod.fst → Taken parsers r d taken d₁ →
      spec.take parsers r d₁ = spec'.take parsers r d₁) :
    (m.extract parsers r).run.run d = (m'.extract parsers r).run.run d := by
  rcases taken_or_first_failure parsers r before d with ⟨taken, d₁, rfl, htaken⟩ |
    ⟨taken, failed, rest, d₁, failure, d₂, rfl, htaken, hfails⟩
  · have hstep : ∀ members, (takeStep parsers r members spec).run.run d₁ =
        (takeStep parsers r members spec').run.run d₁ := by
      intro members
      have htake := htake taken d₁ rfl htaken
      rcases hspec : spec.take parsers r d₁ with ⟨failure | data, d₂⟩
      · rw [takeStep_of_error hspec, takeStep_of_error (htake.symm.trans hspec)]
      · rw [takeStep_of_ok hspec, takeStep_of_ok (htake.symm.trans hspec), hname]
    rw [extract_eq, extract_eq, hspecs, hspecs', run_foldlM_append htaken,
      run_foldlM_append htaken, List.foldlM_cons, List.foldlM_cons, Serving.run_bind,
      Serving.run_bind, hstep]
  · rw [List.append_assoc] at hspecs hspecs'
    rw [extract_of_first_failure hspecs htaken hfails, extract_of_first_failure hspecs' htaken hfails]

theorem check_congr {serializer : Serializer} {raw name name' : String} {fields : Named Schema}
    (byFields : serializer.ByFields) (hstrict : m.strict = m'.strict)
    (content : r.contentType? = some raw) (hmodel : m.modelFor (some raw) = combined name fields)
    (hmodel' : m'.modelFor (some raw) = combined name' fields) (members : List (String × Json)) :
    m.check serializer r members = m'.check serializer r members := by
  simp only [check, content, hmodel, hmodel', hstrict, byFields.nameless name name']
  cases hcheck : serializer.check (.object members) (combined name' fields) m'.strict with
  | error details => rfl
  | ok w =>
    obtain ⟨values, rfl⟩ := byFields.object hcheck
    rfl

theorem parse_congr {serializer : Serializer} (hsome : m.specs ≠ []) (hsome' : m'.specs ≠ [])
    (hextract : (m.extract parsers r).run.run d = (m'.extract parsers r).run.run d)
    (hcheck : ∀ members, m.check serializer r members = m'.check serializer r members) :
    (m.parse parsers serializer r).run.run d = (m'.parse parsers serializer r).run.run d := by
  have hnonempty : m.specs.isEmpty = false := by simp [hsome]
  have hnonempty' : m'.specs.isEmpty = false := by simp [hsome']
  rw [parse, parse, hnonempty, hnonempty', if_neg Bool.false_ne_true, if_neg Bool.false_ne_true,
    Serving.run_bind, Serving.run_bind, hextract]
  simp only [hcheck]

/-- The body is read by this parser while this form is kept, once all before it has been taken. -/
def BodyReadBy (parsers : BodyParsers) (r : Request) (d : Decisions) (before : List ComponentSpec)
    (p : BodyParser) (slot : Slot Form) : Prop :=
  ∃ taken d₁ d₂, before = taken.map Prod.fst ∧ Taken parsers r d taken d₁ ∧
    (Serving.parser parsers r).run.run d₁ = (.ok p, d₂) ∧ d₂.form? = slot

/-- Where the body is read under all members as it is under the member for the content type of the
request, that member could as well be the whole model: what is parsed, each refusal and all decisions are
the same. The parsers that every service has read it so exactly where no other member forces a field of
the body that this one does not force. -/
theorem conditional_body_parsed_as_member (blueprint : String) (strict : Option Bool)
    (before after : List ComponentSpec) (mapping : List (String × Schema)) (rest : List Schema)
    (key : String) (member : Schema) (parsers : BodyParsers) (serializer : Serializer) (r : Request)
    (d : Decisions) (byFields : serializer.ByFields)
    (others : ∀ other ∈ before ++ after, other.contextName ≠ Component.body.contextName)
    (distinct : (mapping.map fun e => (MediaType.read e.1).essence).Nodup)
    (hmember : (key, member) ∈ mapping)
    (content : r.contentType? = some (MediaType.read key).essence)
    (direct : ∀ inner, member.mapping? = some inner →
      ∀ e ∈ inner, (MediaType.read e.1).essence ≠ (MediaType.read key).essence) :
    ((∀ p slot, BodyReadBy parsers r d before p slot →
        p.read r.body r (.conditional mapping) slot = p.read r.body r member slot) →
      ((ofSpecs blueprint (before ++ .bodyOf (.conditional mapping) rest :: after) strict).parse
          parsers serializer r).run.run d =
        ((ofSpecs blueprint (before ++ .bodyOf member rest :: after) strict).parse
          parsers serializer r).run.run d) ∧
    ∀ (p : BodyParser) (slot : Slot Form), p.BuiltIn → ∃ fields, p.ReadsFields r slot fields ∧
      (p.read r.body r (.conditional mapping) slot = p.read r.body r member slot ↔
        ∀ field ∈ fields, ∀ e ∈ mapping, field.1 ∈ e.2.forceListKeys →
          field.1 ∈ member.forceListKeys) := by
  refine ⟨fun alike => ?_, fun p slot hp => ?_⟩
  · have hessence := MediaType.essence_read_essence key
    have hmodel : ((ComponentSpec.bodyOf (.conditional mapping) rest).conditionalModel?
          (MediaType.read key).essence).getD (.conditional mapping) =
        ((ComponentSpec.bodyOf member rest).conditionalModel?
          (MediaType.read key).essence).getD member := by
      rw [ComponentSpec.conditionalModel?_bodyOf distinct hmember,
        ComponentSpec.conditionalModel?_bodyOf_eq_none direct]
      rfl
    have hfields : fieldsAt (MediaType.read (MediaType.read key).essence).essence
          (before ++ .bodyOf (.conditional mapping) rest :: after) =
        fieldsAt (MediaType.read (MediaType.read key).essence).essence
          (before ++ .bodyOf member rest :: after) := by
      rw [hessence]
      exact fieldsAt_congr rfl others hmodel
    refine parse_congr (by simp [ofSpecs]) (by simp [ofSpecs]) ?_ ?_
    · refine extract_congr rfl rfl rfl fun taken d₁ hbefore htaken => ?_
      exact ComponentSpec.take_bodyOf_congr fun p d₂ hparser =>
        alike p d₂.form? ⟨taken, d₁, d₂, hbefore, htaken, hparser, rfl⟩
    · obtain ⟨name, hwhole⟩ := modelFor_some blueprint
        (before ++ .bodyOf (.conditional mapping) rest :: after) strict (MediaType.read key).essence
      obtain ⟨name', hone⟩ := modelFor_some blueprint (before ++ .bodyOf member rest :: after) strict
        (MediaType.read key).essence
      exact check_congr byFields rfl content (hwhole.trans (congrArg (combined name) hfields)) hone
  · obtain ⟨fields, hreads⟩ := hp.reads_fields r slot
    exact ⟨fields, hreads, hreads.read_conditional_iff hmember⟩

def taggedNote : Schema :=
  .object {
    name := "Tagged"
    fields := [("note", { schema := .plainString }),
      ("tag", { schema := .plainString, required := false })] }

def labelledNote : Schema :=
  .object {
    name := "Labelled"
    fields := [("note", { schema := .plainString }),
      ("tag", { schema := .listOf .plainString })]
    forceList := ["tag"] }

def noteMapping : List (String × Schema) :=
  [("application/x-www-form-urlencoded", taggedNote), ("multipart/form-data", labelledNote)]

def formParsers : BodyParsers := [("application/x-www-form-urlencoded", .form [])]

def notePosting (body : String) : Request where
  method := "POST"
  uri := .root
  headers := ⟨[("content-type", Text.utf8 "application/x-www-form-urlencoded")]⟩
  body := Text.utf8 body

def parsedNote (model : Schema) (body : String) : Except Failure ParsedComponents :=
  (((ofSpecs "Notes" [.bodyOf model []] none).parse formParsers .json
    (notePosting body)).run.run {}).1

theorem untagged_note_parsed :
    parsedNote (.conditional noteMapping) "note=n" = parsedNote taggedNote "note=n" ∧
    parsedNote taggedNote "note=n" = .ok ⟨[("parsed_body", .object [("note", .string "n")])]⟩ := by
  have halike : ∀ p slot, BodyReadBy formParsers (notePosting "note=n") {} [] p slot →
      p.read (Text.utf8 "note=n") (notePosting "note=n") (.conditional noteMapping) slot =
        p.read (Text.utf8 "note=n") (notePosting "note=n") taggedNote slot := by
    rintro p slot ⟨taken, d₁, d₂, htaken, hrun, hparser, -⟩
    obtain rfl := List.map_eq_nil_iff.mp htaken.symm
    cases hrun
    have hchosen : (Serving.parser formParsers (notePosting "note=n")).run.run {} =
        (.ok (.form []), { parser? := some (.form []) }) := by with_unfolding_all rfl
    cases hchosen.symm.trans hparser
    have hreads : (BodyParser.form []).ReadsFields (notePosting "note=n") slot
        (Query.readPairs (notePosting "note=n").body) := .posted rfl
    exact (hreads.read_conditional_iff List.mem_cons_self).mpr (by decide +kernel)
  have hparse := conditional_body_parsed_as_member "Notes" none [] [] noteMapping []
    "application/x-www-form-urlencoded" taggedNote formParsers .json (notePosting "note=n") {}
    Serializer.json_byFields (by simp) (by decide +kernel) List.mem_cons_self (by decide +kernel)
    fun inner hinner => nomatch hinner
  exact ⟨congrArg Prod.fst (hparse.1 halike), by with_unfolding_all rfl⟩

/-- A tag in a form of pairs is refused as a list, since parts would hold a list of tags. -/
theorem tag_refused_as_list :
    (noteMapping.map fun e => (MediaType.read e.1).essence).Nodup ∧
    (notePosting "note=n&tag=x").contentType? =
      some (MediaType.read "application/x-www-form-urlencoded").essence ∧
    parsedNote taggedNote "note=n&tag=x" =
      .ok ⟨[("parsed_body", .object [("note", .string "n"), ("tag", .string "x")])]⟩ ∧
    parsedNote (.conditional noteMapping) "note=n&tag=x" = .error (.invalid
      [⟨"Input should be a valid string", some [.key "parsed_body", .key "tag"], "string_type"⟩]
      .badRequest) := by
  refine ⟨?_, ?_, ?_, ?_⟩
  · decide +kernel
  · decide +kernel
  · with_unfolding_all rfl
  · with_unfolding_all rfl

end RequestModel

end Accord
