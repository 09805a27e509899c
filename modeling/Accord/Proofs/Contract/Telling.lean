import Accord.Proofs.Contract.Breaches
import Accord.Proofs.Component.EffectiveModel
import Accord.Proofs.Schema.Refusals

namespace Accord

open Schema

def Failure.RefusesPattern (f : Failure) : Prop := ∃ d ∈ f.details, d.RefusesPattern

theorem Failure.not_refusesPattern {f : Failure} (h : AllOther f.details) : ¬f.RefusesPattern := by
  rintro ⟨d, hd, hrefuses⟩
  exact (h d hd).not_refusesPattern hrefuses

namespace RequestModel

structure Compiles (spec : ComponentSpec) : Prop where
  model : PatternsCompile spec.model
  members : ∀ e ∈ spec.conditionalTypes, PatternsCompile e.2

theorem patternsCompile_combined {name : String} {fields : Named Schema}
    (h : ∀ e ∈ fields, PatternsCompile e.2) : PatternsCompile (combined name fields) := by
  refine everywhere_object.mpr ⟨trivial, fun e he => ?_⟩
  obtain ⟨entry, hentry, rfl⟩ := List.mem_map.mp (Named.mem_of_mem_ofList he)
  exact h entry hentry

theorem patternsCompile_fieldsOf {specs : List ComponentSpec} (h : ∀ spec ∈ specs, Compiles spec) :
    ∀ e ∈ fieldsOf specs, PatternsCompile e.2 := by
  intro e he
  obtain ⟨spec, hspec, rfl⟩ := List.mem_map.mp (Named.mem_of_mem_ofList he)
  exact (h spec hspec).model

theorem patternsCompile_replacements {specs : List ComponentSpec} (h : ∀ spec ∈ specs, Compiles spec)
    (essence : String) : ∀ e ∈ replacements essence specs, PatternsCompile e.2 := by
  intro e he
  obtain ⟨spec, hspec, he⟩ := List.mem_flatMap.mp he
  obtain ⟨⟨key, s⟩, hs, heq⟩ := List.mem_map.mp (Named.mem_groupOf.mp he)
  obtain rfl : (spec.contextName, s) = e := congrArg Prod.snd heq
  exact (h spec hspec).members (key, s) hs

theorem patternsCompile_modelFor {specs : List ComponentSpec} (h : ∀ spec ∈ specs, Compiles spec)
    (blueprint : String) (strict : Option Bool) (contentType : Option String) :
    PatternsCompile ((ofSpecs blueprint specs strict).modelFor contentType) := by
  have hdefault : PatternsCompile (ofSpecs blueprint specs strict).default :=
    patternsCompile_combined (patternsCompile_fieldsOf h)
  cases contentType with
  | none => exact hdefault
  | some raw =>
    simp only [modelFor, Option.bind_some, lookup_variants]
    split
    · next s hs =>
      split at hs
      · cases hs
      · obtain rfl := Option.some.inj hs
        refine patternsCompile_combined fun e he => ?_
        rcases Named.mem_of_mem_putAll he with he | he
        · exact patternsCompile_replacements h _ e (Named.mem_of_mem_ofList he)
        · exact patternsCompile_fieldsOf h e he
    · exact hdefault

theorem allOther_of_check {specs : List ComponentSpec} (h : ∀ spec ∈ specs, Compiles spec)
    {blueprint : String} {strict : Option Bool} {r : Request} {members : List (String × Json)}
    {f : Failure} (hf : (ofSpecs blueprint specs strict).check .json r members = .error f) :
    AllOther f.details := by
  simp only [check] at hf
  split at hf
  · cases hf
  · cases hf
    exact allOther_singleton (by simp [IsOther])
  · next details hdetails =>
    cases hf
    exact allOther_of_validate (patternsCompile_modelFor h blueprint strict _) hdetails

end RequestModel

namespace ResponseCheck

variable {m : Type → Type} {c : ResponseCheck m} {spec : ResponseSpec} {f : Failure}

theorem isOther_of_opens {start message : String} (h : Text.Opens start message)
    (hfirst : ¬Text.Opens start "Inv") (hsecond : ¬Text.Opens "Inv" start) : IsOther message := by
  show ¬Text.Opens "Inv" message
  exact h.apart hfirst hsecond

theorem patternsCompile_of_modelFor {returnType model : Schema} {contentType : String}
    (compile : PatternsCompile returnType) (h : modelFor returnType contentType = .ok model) :
    PatternsCompile model := by
  cases returnType with
  | conditional mapping =>
    simp only [modelFor, mapping?] at h
    split at h
    · next key s hfound =>
      cases h
      exact (everywhere_conditional.mp compile).2 _ (List.mem_of_find?_eq_some hfound)
    · cases h
  | _ =>
    cases h
    exact compile

theorem Breach.allOther (h : Breach c spec f) (json : c.serializer = .json)
    (compile : PatternsCompile spec.returnType) : AllOther f.details := by
  cases h with
  | told opens =>
    refine allOther_singleton ?_
    rcases opens with opens | opens
    · exact isOther_of_opens opens (by decide) (by decide)
    · exact isOther_of_opens opens (by decide) (by decide)
  | @body model _ v details hmodel hdetails =>
    rw [json] at hdetails ⊢
    have hother : AllOther details :=
      allOther_of_validate (patternsCompile_of_modelFor compile hmodel) hdetails
    change AllOther (if details.isEmpty then [_] else details)
    split
    · exact allOther_singleton (by simp [IsOther])
    · exact hother

theorem allOther_of_specFor {status : Status} (h : c.specFor status = .error f) :
    AllOther f.details := by
  obtain ⟨message, rfl, opens⟩ := undeclared_of_specFor h
  exact allOther_singleton (isOther_of_opens opens (by decide) (by decide))

theorem allOther_of_accept (json : c.serializer = .json)
    (compile : ∀ spec ∈ c.contract.responses, PatternsCompile spec.returnType) {request : Request}
    {r : Response} {d : Decisions} (h : ((c.accept request r).run.run d).1 = .error f) :
    AllOther f.details := by
  cases refused_of_accept h with
  | undeclared hspec => exact allOther_of_specFor hspec
  | unreread | unread => exact allOther_singleton (by simp [IsOther])
  | breach hspec hbreach => exact hbreach.allOther json (compile _ hspec)

theorem allOther_of_acceptRaw (json : c.serializer = .json)
    (compile : ∀ spec ∈ c.contract.responses, PatternsCompile spec.returnType) {v : Json}
    {d : Decisions} (h : ((c.acceptRaw v).run.run d).1 = .error f) : AllOther f.details := by
  cases rawRefused_of_acceptRaw h with
  | unassociated | unnegotiated => exact allOther_singleton (by simp [IsOther])
  | undeclared _ hspec => exact allOther_of_specFor hspec
  | breach hspec hbreach => exact hbreach.allOther json (compile _ hspec)

end ResponseCheck

end Accord
