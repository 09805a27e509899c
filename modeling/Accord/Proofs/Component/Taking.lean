import Accord.Component.RequestModel
import Accord.Proofs.Negotiation.Serving

namespace Accord

/-- What taking the data of a component gives, and what is decided then. -/
def ComponentSpec.take (parsers : BodyParsers) (r : Request) (spec : ComponentSpec) (d : Decisions) :
    Except Failure Json × Decisions :=
  (spec.component.extract parsers r spec.model).run.run d

/-- The data of components as it is taken in this order, from what is decided before it to what is
decided behind it. -/
inductive Taken (parsers : BodyParsers) (r : Request) :
    Decisions → List (ComponentSpec × Json) → Decisions → Prop
  | nil {d : Decisions} : Taken parsers r d [] d
  | cons {spec : ComponentSpec} {data : Json} {rest : List (ComponentSpec × Json)}
      {d d₁ d₂ : Decisions} :
      spec.take parsers r d = (.ok data, d₁) → Taken parsers r d₁ rest d₂ →
      Taken parsers r d ((spec, data) :: rest) d₂

variable {parsers : BodyParsers} {r : Request} {d d₁ d₂ : Decisions} {failure : Failure}
  {taken : List (ComponentSpec × Json)} {spec : ComponentSpec} {after : List ComponentSpec}

/-- Either all data can be taken, or there is a first component whose data cannot. -/
theorem taken_or_first_failure (parsers : BodyParsers) (r : Request) (specs : List ComponentSpec)
    (d : Decisions) :
    (∃ taken d₁, specs = taken.map Prod.fst ∧ Taken parsers r d taken d₁) ∨
      ∃ taken spec after d₁ failure d₂, specs = taken.map Prod.fst ++ spec :: after ∧
        Taken parsers r d taken d₁ ∧ spec.take parsers r d₁ = (.error failure, d₂) := by
  induction specs generalizing d with
  | nil => exact Or.inl ⟨[], d, rfl, .nil⟩
  | cons spec rest ih =>
    rcases htake : spec.take parsers r d with ⟨failure | data, d₁⟩
    · exact Or.inr ⟨[], spec, rest, d, failure, d₁, rfl, .nil, htake⟩
    · rcases ih d₁ with ⟨taken, d₂, rfl, htaken⟩ |
        ⟨taken, failed, after, d₂, failure, d₃, rfl, htaken, hfailed⟩
      · exact Or.inl ⟨(spec, data) :: taken, d₂, rfl, .cons htake htaken⟩
      · exact Or.inr
          ⟨(spec, data) :: taken, failed, after, d₂, failure, d₃, rfl, .cons htake htaken, hfailed⟩

namespace RequestModel

def membersOf (taken : List (ComponentSpec × Json)) : List (String × Json) :=
  taken.map fun (spec, data) => (spec.contextName, data)

def takeStep (parsers : BodyParsers) (r : Request) (members : List (String × Json))
    (spec : ComponentSpec) : Serving (List (String × Json)) := do
  let data ← spec.component.extract parsers r spec.model
  return Json.insertMember spec.contextName data members

theorem extract_eq (m : RequestModel) (parsers : BodyParsers) (r : Request) :
    m.extract parsers r = m.specs.foldlM (takeStep parsers r) [] := rfl

theorem takeStep_of_ok {data : Json} (h : spec.take parsers r d = (.ok data, d₁))
    (members : List (String × Json)) :
    (takeStep parsers r members spec).run.run d =
      (.ok (Json.insertMember spec.contextName data members), d₁) :=
  Serving.run_bind_of_ok h _

theorem takeStep_of_error (h : spec.take parsers r d = (.error failure, d₁))
    (members : List (String × Json)) :
    (takeStep parsers r members spec).run.run d = (.error failure, d₁) :=
  Serving.run_bind_of_error h _

theorem run_foldlM_append (h : Taken parsers r d taken d₁) (after : List ComponentSpec)
    (members : List (String × Json)) :
    ((taken.map Prod.fst ++ after).foldlM (takeStep parsers r) members).run.run d =
      (after.foldlM (takeStep parsers r) (taken.foldl (fun members (spec, data) =>
        Json.insertMember spec.contextName data members) members)).run.run d₁ := by
  induction h generalizing members with
  | nil => rfl
  | cons htake _ ih =>
    rw [List.map_cons, List.cons_append, List.foldlM_cons,
      Serving.run_bind_of_ok (takeStep_of_ok htake members), ih, List.foldl_cons]

theorem extract_of_taken {m : RequestModel} (hspecs : m.specs = taken.map Prod.fst)
    (h : Taken parsers r d taken d₁) :
    (m.extract parsers r).run.run d =
      (.ok (Json.sortMembers (membersOf taken)), d₁) := by
  have hrun := run_foldlM_append h [] []
  rw [List.append_nil, List.foldlM_nil, Serving.run_pure] at hrun
  rw [extract_eq, hspecs, hrun, Json.sortMembers, membersOf, List.foldl_map]

theorem extract_of_first_failure {m : RequestModel}
    (hspecs : m.specs = taken.map Prod.fst ++ spec :: after) (h : Taken parsers r d taken d₁)
    (hfails : spec.take parsers r d₁ = (.error failure, d₂)) :
    (m.extract parsers r).run.run d = (.error failure, d₂) := by
  rw [extract_eq, hspecs, run_foldlM_append h, List.foldlM_cons,
    Serving.run_bind_of_error (takeStep_of_error hfails _)]

theorem parse_of_first_failure {m : RequestModel}
    (hspecs : m.specs = taken.map Prod.fst ++ spec :: after) (h : Taken parsers r d taken d₁)
    (hfails : spec.take parsers r d₁ = (.error failure, d₂)) (serializer : Serializer) :
    (m.parse parsers serializer r).run.run d = (.error failure, d₂) := by
  have hsome : m.specs.isEmpty = false := by simp [hspecs]
  have hextract := extract_of_first_failure hspecs h hfails
  rw [parse, hsome, if_neg Bool.false_ne_true, Serving.run_bind_of_error hextract]

theorem parse_of_taken {m : RequestModel} (hspecs : m.specs = taken.map Prod.fst)
    (hsome : taken ≠ []) (h : Taken parsers r d taken d₁) (serializer : Serializer) :
    (m.parse parsers serializer r).run.run d =
      (m.check serializer r (Json.sortMembers (membersOf taken)), d₁) := by
  have hsome : m.specs.isEmpty = false := by simp [hspecs, hsome]
  rw [parse, hsome, if_neg Bool.false_ne_true,
    Serving.run_bind_of_ok (extract_of_taken hspecs h), Serving.run_liftM]

theorem taken_of_parse_eq_ok {m : RequestModel} {serializer : Serializer} {p : ParsedComponents}
    (h : (m.parse parsers serializer r).run.run d = (.ok p, d₁)) :
    ∃ taken, m.specs = taken.map Prod.fst ∧ Taken parsers r d taken d₁ ∧
      (taken = [] ∧ p = .empty ∨
        m.check serializer r (Json.sortMembers (membersOf taken)) = .ok p) := by
  rcases taken_or_first_failure parsers r m.specs d with ⟨taken, d₂, hspecs, htaken⟩ |
    ⟨taken, spec, after, d₂, failure, d₃, hspecs, htaken, hfails⟩
  · by_cases hsome : taken = []
    · subst hsome
      have hempty : m.specs.isEmpty = true := by simp [hspecs]
      rw [parse, hempty, if_pos rfl, Serving.run_pure] at h
      cases h
      cases htaken
      exact ⟨[], hspecs, .nil, Or.inl ⟨rfl, rfl⟩⟩
    · rw [parse_of_taken hspecs hsome htaken serializer] at h
      obtain ⟨hcheck, rfl⟩ := Prod.mk.inj h
      exact ⟨taken, hspecs, htaken, Or.inr hcheck⟩
  · rw [parse_of_first_failure hspecs htaken hfails serializer] at h
    cases h

/-- A request is refused for the first component that cannot be taken, or else for the check. -/
theorem error_of_parse {m : RequestModel} {serializer : Serializer}
    (h : (m.parse parsers serializer r).run.run d = (.error failure, d₁)) :
    (∃ taken spec after d₂, m.specs = taken.map Prod.fst ++ spec :: after ∧
        Taken parsers r d taken d₂ ∧ spec.take parsers r d₂ = (.error failure, d₁)) ∨
      ∃ members, m.check serializer r members = .error failure := by
  rcases taken_or_first_failure parsers r m.specs d with ⟨taken, d₂, hspecs, htaken⟩ |
    ⟨taken, spec, after, d₂, failed, d₃, hspecs, htaken, hfails⟩
  · by_cases hsome : taken = []
    · subst hsome
      have hempty : m.specs.isEmpty = true := by simp [hspecs]
      rw [parse, hempty, if_pos rfl, Serving.run_pure] at h
      cases h
    · rw [parse_of_taken hspecs hsome htaken serializer] at h
      exact Or.inr ⟨_, (Prod.mk.inj h).1⟩
  · rw [parse_of_first_failure hspecs htaken hfails serializer] at h
    cases h
    exact Or.inl ⟨taken, spec, after, d₂, hspecs, htaken, hfails⟩

end RequestModel

end Accord
