import Accord.Proofs.Contract.Accepting
import Accord.Proofs.Contract.Building
import Accord.Proofs.Text

namespace Accord.ResponseCheck

open Serving

variable {m : Type → Type} {c : ResponseCheck m} {spec : ResponseSpec} {request : Request}
  {r : Response} {d : Decisions} {v : Json} {contentType message : String} {f : Failure}

/-- What is told of an answer that is not as its status is declared. -/
inductive Breach (c : ResponseCheck m) (spec : ResponseSpec) : Failure → Prop
  | told {message : String} : Text.Opens "Response " message ∨ Text.Opens "Content-Type '" message →
      Breach c spec (.brokenContract message [])
  | body {model : Schema} {contentType : String} {v : Json} {details : List Detail} :
      modelFor spec.returnType contentType = .ok model →
      c.serializer.check v model (some c.strict) = .error details →
      Breach c spec (.brokenBody (c.serializer.present details))

theorem Breach.opens (h : Breach c spec f) : ∃ message details, f = .brokenContract message details ∧
    (Text.Opens "Response " message ∨ Text.Opens "Content-Type '" message) := by
  cases h with
  | told opens => exact ⟨_, _, rfl, opens⟩
  | body _ _ => exact ⟨_, _, rfl, .inl (by simp [Text.Opens])⟩

theorem breach_of_broken {α : Type} (opens : Text.Opens "Response " message)
    (h : (broken message : Except Failure α) = .error f) : Breach c spec f := by
  cases h
  exact .told (.inl opens)

theorem breach_of_checkLimit (h : checkLimit spec contentType = .error f) : Breach c spec f := by
  simp only [checkLimit] at h
  split at h
  · cases h
  · split at h
    · cases h
    · exact breach_of_broken (by simp [Text.Opens]) h

theorem breach_of_modelFor {returnType : Schema} (h : modelFor returnType contentType = .error f) :
    Breach c spec f := by
  simp only [modelFor] at h
  split at h
  · cases h
  · split at h
    · cases h
    · cases h
      exact .told (.inr (by simp [Text.Opens]))

theorem breach_of_checkBody (h : c.checkBody spec contentType v = .error f) : Breach c spec f := by
  rcases error_of_bind h with hlimit | ⟨_, -, h⟩
  · exact breach_of_checkLimit hlimit
  rcases error_of_bind h with hmodel | ⟨model, hmodel, h⟩
  · exact breach_of_modelFor hmodel
  split at h
  · cases h
  · next details hdetails =>
    cases h
    exact .body hmodel hdetails

theorem breach_of_checkHeaders (h : checkHeaders spec r = .error f) : Breach c spec f := by
  simp only [checkHeaders] at h
  split at h
  · exact breach_of_broken (by simp [Text.Opens]) h
  · split at h
    · exact breach_of_broken (by simp [Text.Opens]) h
    · cases h

theorem breach_of_checkCookie {name : String} {cookie : NewCookie}
    (h : checkCookie spec name cookie = .error f) : Breach c spec f := by
  simp only [checkCookie] at h
  split at h
  · cases h
  · split at h
    · cases h
    · exact breach_of_broken (by simp [Text.Opens]) h

theorem breach_of_checkCookies (h : checkCookies spec r = .error f) : Breach c spec f := by
  simp only [checkCookies] at h
  split at h
  · exact breach_of_broken (by simp [Text.Opens]) h
  · split at h
    · exact breach_of_broken (by simp [Text.Opens]) h
    · obtain ⟨e, -, he⟩ := error_of_forM h
      exact breach_of_checkCookie he

theorem breach_of_checkContentType (h : c.checkContentType r = .error f) : Breach c spec f := by
  simp only [checkContentType] at h
  split at h
  · cases h
  · exact breach_of_broken (by simp [Text.Opens]) h

theorem breach_of_verdict (h : c.verdict spec contentType r v = .error f) : Breach c spec f := by
  rcases error_of_bind h with hbody | ⟨_, -, h⟩
  · exact breach_of_checkBody hbody
  rcases error_of_bind h with hheaders | ⟨_, -, h⟩
  · exact breach_of_checkHeaders hheaders
  rcases error_of_bind h with hcookies | ⟨_, -, h⟩
  · exact breach_of_checkCookies hcookies
  split at h
  · cases h
  · exact breach_of_checkContentType h

theorem mem_of_specFor {status : Status} (h : c.specFor status = .ok spec) :
    spec ∈ c.contract.responses := by
  simp only [specFor] at h
  split at h
  · next found hfound =>
    cases h
    exact List.mem_of_find?_eq_some hfound
  · cases h

theorem specFor_of_find? {status : Status} (h : c.contract.responses.find? status = some spec) :
    c.specFor status = .ok spec := by
  rw [specFor, h]

theorem undeclared_of_specFor {status : Status} (h : c.specFor status = .error f) :
    ∃ message, f = .brokenContract message [] ∧ Text.Opens "Returned status code " message := by
  simp only [specFor] at h
  split at h
  · cases h
  · cases h
    exact ⟨_, rfl, by simp [Text.Opens]⟩

/-- Why a response is refused. -/
inductive Refused (c : ResponseCheck m) (r : Response) (d : Decisions) : Failure → Prop
  | undeclared {f : Failure} : c.specFor r.status = .error f → Refused c r d f
  | unreread : BodyParsers.forRereading? r.contentType? d.renderer? c.contract.parsers = none →
      Refused c r d (.internal "No parser can read the response body back")
  | unread {f : Failure} : Refused c r d (unreadable f)
  | breach {spec : ResponseSpec} {f : Failure} :
      spec ∈ c.contract.responses → Breach c spec f → Refused c r d f

theorem refused_of_accept (h : ((c.accept request r).run.run d).1 = .error f) : Refused c r d f := by
  rw [outcome_accept] at h
  split at h
  · rcases error_of_bind h with h | ⟨_, -, h⟩
    · rw [outcome_checkResponse] at h
      rcases error_of_bind h with hspec | ⟨spec, hspec, h⟩
      · exact .undeclared hspec
      split at h
      · next hnone =>
        cases h
        exact .unreread hnone
      · next parser _ =>
        rcases error_of_bind h with hread | ⟨v, -, hverdict⟩
        · cases hout : parser.read r.body request spec.returnType d.form? with
          | error failure =>
            rw [hout] at hread
            cases hread
            exact .unread
          | ok out =>
            rw [hout] at hread
            cases hread
        · exact .breach (mem_of_specFor hspec) (breach_of_verdict hverdict)
    · cases h
  · cases h

inductive RawRefused (c : ResponseCheck m) (d : Decisions) : Failure → Prop
  | unassociated : c.contract.modification = none →
      RawRefused c d (.internal ("Endpoint '" ++ c.contract.method ++
        "' returned raw data without associated modification"))
  | unnegotiated : d.renderer? = none →
      RawRefused c d (.internal "Raw data cannot be validated before renderer negotiation")
  | undeclared {modification : Modification} {f : Failure} :
      c.contract.modification = some modification → c.specFor modification.status = .error f →
      RawRefused c d f
  | breach {spec : ResponseSpec} {f : Failure} :
      spec ∈ c.contract.responses → Breach c spec f → RawRefused c d f

theorem rawRefused_of_acceptRaw (h : ((c.acceptRaw v).run.run d).1 = .error f) :
    RawRefused c d f := by
  cases hmodification : c.contract.modification with
  | none =>
    unfold acceptRaw at h
    simp only [hmodification] at h
    cases h
    exact .unassociated hmodification
  | some modification =>
    cases hrenderer : d.renderer? with
    | none =>
      unfold acceptRaw at h
      simp only [hmodification] at h
      rw [run_get_bind] at h
      simp only [hrenderer] at h
      cases h
      exact .unnegotiated hrenderer
    | some renderer =>
      rw [run_acceptRaw hmodification hrenderer] at h
      split at h
      · rcases error_of_bind h with hspec | ⟨spec, hspec, h⟩
        · exact .undeclared hmodification hspec
        rcases error_of_bind h with hbody | ⟨_, -, h⟩
        · exact .breach (mem_of_specFor hspec) (breach_of_checkBody hbody)
        · cases h
      · cases h

end Accord.ResponseCheck
