import Accord.Proofs.Body
import Accord.Proofs.Component.Taking
import Accord.Proofs.Contract.Building
import Accord.Proofs.Named
import Accord.Proofs.Schema.Outcome
import Accord.Proofs.Text

namespace Accord

theorem error_of_bodyValue {body : Bytes} {message : String} (h : bodyValue body = .error message) :
    ¬Text.Opens "Cannot parse request body" message := by
  unfold bodyValue at h
  split at h
  · cases h
  · next e _ =>
    split at h
    · cases h
    · cases h
      rw [Json.SyntaxError.message]
      cases e.fault <;> simp [Text.Opens, Json.Fault.message]

theorem Multipart.Fault.message_other (fault : Fault) :
    ¬Text.Opens "Cannot parse request body" fault.message := by
  cases fault with
  | noContentType | otherContentType | noBoundary | incomplete | badHeaders => decide
  | incompleteData name =>
    have hmessage : (incompleteData name).message =
        "field " ++ Text.quoted (name.getD "<unknown>") ++ " received with incomplete data" := rfl
    rw [hmessage]
    simp [Text.Opens]
  | tooManyParts limit =>
    have hmessage : (tooManyParts limit).message = "Too many fields, limit " ++ toString limit := rfl
    rw [hmessage]
    simp [Text.Opens]

theorem FormRules.error_of_readForm {rules : FormRules} {r : Request} {failure : Failure}
    (h : rules.readForm r = .error failure) :
    ∃ message, failure = .unsupported message ∧ ¬Text.Opens "Cannot parse request body" message := by
  simp only [readForm] at h
  split at h
  · cases h
  split at h
  · cases h
    exact ⟨_, rfl, by simp [Text.Opens]⟩
  · generalize (Multipart.boundaryOf ((r.header? "content-type").getD "") >>= fun boundary =>
      Multipart.readParts (Text.utf8 boundary) rules.maxParts r.body) = parts at h
    cases parts with
    | ok parts => cases h
    | error fault =>
      obtain rfl := Except.error.inj h
      exact ⟨fault.message, rfl, fault.message_other⟩

inductive BodyParser.BuiltIn : BodyParser → Prop
  | json : BuiltIn .json
  | form (alsoPosted : List String) : BuiltIn (.form alsoPosted)
  | multipart (rules : FormRules) : BuiltIn (.multipart rules)

namespace BodyParser.BuiltIn

variable {p : BodyParser} {r : Request} {s : Schema} {slot : Slot Form} {failure : Failure}

theorem error_of_found {rules : FormRules} (h : rules.found r slot = .error failure) :
    rules.readForm r = .error failure := by
  cases slot with
  | some form => cases h
  | none => exact h

theorem error_of_read {body : Bytes} (h : p.BuiltIn) (hread : p.read body r s slot = .error failure) :
    ∃ message, (failure = .unreadable message ∨ failure = .unsupported message) ∧
      ¬Text.Opens "Cannot parse request body" message := by
  cases h with
  | json =>
    rw [read_json] at hread
    split at hread
    · cases hread
    · next message hmessage =>
      cases hread
      exact ⟨message, .inl rfl, error_of_bodyValue hmessage⟩
  | form alsoPosted =>
    rw [read_form] at hread
    cases hread
  | multipart rules =>
    rw [read_multipart] at hread
    cases hfound : rules.found r slot with
    | ok form =>
      rw [hfound] at hread
      cases hread
    | error failure =>
      rw [hfound] at hread
      cases hread
      obtain ⟨message, rfl, hother⟩ := FormRules.error_of_readForm (error_of_found hfound)
      exact ⟨message, .inr rfl, hother⟩

theorem error_of_readFiles {readFiles : Request → Schema → FormState Json} (h : p.BuiltIn)
    (hreads : p.readFiles? = some readFiles) (hread : readFiles r s slot = .error failure) :
    ∃ message, failure = .unsupported message ∧ ¬Text.Opens "Cannot parse request body" message := by
  cases h with
  | json => cases hreads
  | form alsoPosted => cases hreads
  | multipart rules =>
    cases hreads
    have hform : rules.form r slot = .error failure := by
      rcases error_of_bind hread with hform | ⟨⟨form, slot⟩, -, hread⟩
      · exact hform
      · cases hread
    rw [FormRules.run_form] at hform
    cases hfound : rules.found r slot with
    | ok form =>
      rw [hfound] at hform
      cases hform
    | error failure =>
      rw [hfound] at hform
      cases hform
      exact FormRules.error_of_readForm (error_of_found hfound)

end BodyParser.BuiltIn

/-- A parser refuses what a component gives it to read: the body, or the files of a form. -/
inductive BodyParser.Unread (p : BodyParser) (r : Request) (s : Schema) (form : Slot Form) :
    Component → Failure → Prop
  | body {failure : Failure} : p.read r.body r s form = .error failure →
      Unread p r s form .body (Component.unreadableBody failure)
  | files {readFiles : Request → Schema → FormState Json} {failure : Failure} :
      p.readFiles? = some readFiles → readFiles r s form = .error failure →
      Unread p r s form .fileMetadata failure

theorem BodyParser.BuiltIn.message_of_unread {p : BodyParser} {r : Request} {s : Schema}
    {form : Slot Form} {component : Component} {failure : Failure} (h : p.BuiltIn)
    (hunread : p.Unread r s form component failure) :
    ∃ message, failure = .unsupported message ∧ ¬Text.Opens "Cannot parse request body" message := by
  cases hunread with
  | body hread =>
    obtain ⟨message, rfl | rfl, hother⟩ := h.error_of_read hread
    · exact ⟨message, rfl, hother⟩
    · exact ⟨message, rfl, hother⟩
  | files hreads hread => exact h.error_of_readFiles hreads hread

namespace ComponentSpec

variable {parsers : BodyParsers} {r : Request} {spec : ComponentSpec} {d d₁ : Decisions}
  {failure : Failure}

/-- Why a component that every service has cannot be taken. -/
inductive Untaken (parsers : BodyParsers) (r : Request) (spec : ComponentSpec) (d : Decisions) :
    Failure → Prop
  | unchosen {failure : Failure} : parsers.choose r = .error failure →
      Untaken parsers r spec d failure
  | unread {p : BodyParser} {d₁ : Decisions} {failure : Failure} :
      (Serving.parser parsers r).run.run d = (.ok p, d₁) →
      p.Unread r spec.model d₁.form? spec.component failure → Untaken parsers r spec d failure
  | other {message : String} : ¬Text.Opens "Cannot parse request body" message →
      Untaken parsers r spec d (.unsupported message)

theorem untaken_of_bodyData (hcomponent : spec.component = .body)
    (h : (Component.bodyData parsers r spec.model).run.run d = (.error failure, d₁)) :
    Untaken parsers r spec d failure := by
  rcases Serving.error_of_run_bind h with hstep | ⟨p, d₂, hstep, h⟩
  · exact .unchosen (Serving.error_of_parserStep hstep)
  · obtain ⟨refusal, hform, rfl⟩ := Serving.error_of_adapt h
    have hread : p.read r.body r spec.model d₂.form? = .error refusal :=
      Serving.error_of_withForm hform
    exact .unread hstep (hcomponent ▸ .body hread)

theorem untaken_of_fileData (hcomponent : spec.component = .fileMetadata)
    (h : (Component.fileData parsers r spec.model).run.run d = (.error failure, d₁)) :
    Untaken parsers r spec d failure := by
  rcases Serving.error_of_run_bind h with hstep | ⟨p, d₂, hstep, h⟩
  · exact .unchosen (Serving.error_of_parserStep hstep)
  cases hreads : p.readFiles? with
  | none =>
    rw [hreads] at h
    cases h
    exact .other (by simp [Text.Opens])
  | some readFiles =>
    rw [hreads] at h
    have hread : readFiles r spec.model d₂.form? = .error failure := Serving.error_of_withForm h
    exact .unread hstep (hcomponent ▸ .files hreads hread)

theorem untaken_of_pathData
    (h : Component.pathData r spec.model = .error failure) : Untaken parsers r spec d failure := by
  simp only [Component.pathData] at h
  split at h
  · cases h
  · cases h
    exact .other (by simp [Text.Opens])

theorem untaken_of_take (builtIn : spec.component ∈ Component.all)
    (h : spec.take parsers r d = (.error failure, d₁)) : Untaken parsers r spec d failure := by
  obtain ⟨component, typeArgs⟩ := spec
  simp only [Component.all, List.mem_cons, List.not_mem_nil, or_false] at builtIn
  rcases builtIn with rfl | rfl | rfl | rfl | rfl | rfl
  · cases h
  · exact untaken_of_bodyData rfl h
  · cases h
  · have hpath : (liftM (Component.pathData r _) : Serving Json).run.run d = (.error failure, d₁) := h
    rw [Serving.run_liftM] at hpath
    exact untaken_of_pathData (Prod.mk.inj hpath).1
  · cases h
  · exact untaken_of_fileData rfl h

end ComponentSpec

theorem Schema.object_of_validate {model : Model Schema} {members : List (String × Json)}
    {strict : Option Bool} {w : Json} (h : (object model).validate (.object members) strict = .ok w) :
    ∃ values, w = .object values := by
  rw [validate_eq, outcome_object, objectOutcome] at h
  split at h
  · next out hout =>
    obtain ⟨hvalue, hdetails⟩ := Prod.mk.inj hout
    rw [hdetails] at hvalue
    cases h
    exact ⟨_, by rw [← hvalue]; rfl⟩
  · cases h

namespace RequestModel

theorem modelFor_object (blueprint : String) (specs : List ComponentSpec) (strict : Option Bool)
    (contentType : Option String) :
    ∃ model, (ofSpecs blueprint specs strict).modelFor contentType = .object model := by
  have hcombined : ∃ name fields,
      (ofSpecs blueprint specs strict).modelFor contentType = combined name fields := by
    unfold modelFor
    split
    · next s hs =>
      obtain ⟨raw, -, hlookup⟩ := Option.bind_eq_some_iff.mp hs
      obtain ⟨⟨essence, fields⟩, -, hvariant⟩ := List.mem_map.mp (Named.mem_of_lookup hlookup)
      exact ⟨_, _, (congrArg Prod.snd hvariant).symm⟩
    · exact ⟨"_" ++ blueprint ++ "@ContextModel", fieldsOf specs, rfl⟩
  obtain ⟨name, fields, hmodel⟩ := hcombined
  exact ⟨Model.ofSchemas name fields, hmodel⟩

theorem invalid_of_check {blueprint : String} {specs : List ComponentSpec} {strict : Option Bool}
    {r : Request} {members : List (String × Json)} {failure : Failure}
    (h : (ofSpecs blueprint specs strict).check .json r members = .error failure) :
    ∃ details, failure = .invalid details .badRequest := by
  obtain ⟨model, hmodel⟩ := modelFor_object blueprint specs strict r.contentType?
  simp only [check, hmodel] at h
  split at h
  · cases h
  · next other hother hvalid =>
    obtain ⟨values, rfl⟩ := Schema.object_of_validate hvalid
    exact absurd rfl (hother values)
  · cases h
    exact ⟨_, rfl⟩

end RequestModel

end Accord
