import Accord.Contract.Check
import Accord.Proofs.Negotiation.Holding

namespace Accord.ResponseCheck

open Serving

variable {m : Type → Type}

/-- The content type by which a body is judged: that of the renderer of the request, else that of the
parser which has read the body back. -/
def judgedType (renderer? : Option Renderer) (parser : BodyParser) : String :=
  match renderer? with
  | some renderer => renderer.contentType
  | none => parser.contentType

def verdict (c : ResponseCheck m) (spec : ResponseSpec) (contentType : String) (r : Response)
    (v : Json) : Except Failure Unit := do
  c.checkBody spec contentType v
  checkHeaders spec r
  checkCookies spec r
  if isBare r then return () else c.checkContentType r

def readBack (parser : BodyParser) (request : Request) (r : Response) (spec : ResponseSpec)
    (form : Slot Form) : Except Failure (Json × Slot Form) :=
  (parser.read r.body request spec.returnType form).mapError unreadable

theorem run_verdict (c : ResponseCheck m) (spec : ResponseSpec) (contentType : String) (r : Response)
    (v : Json) (d : Decisions) :
    (do
      liftM (c.checkBody spec contentType v)
      liftM (checkHeaders spec r)
      liftM (checkCookies spec r)
      if isBare r then return ()
      else liftM (c.checkContentType r) : Serving Unit).run.run d =
      (c.verdict spec contentType r v, d) := by
  unfold verdict
  rw [run_bind, run_liftM]
  cases c.checkBody spec contentType v with
  | error failure => rfl
  | ok _ =>
    dsimp only
    rw [run_bind, run_liftM]
    cases checkHeaders spec r with
    | error failure => rfl
    | ok _ =>
      dsimp only
      rw [run_bind, run_liftM]
      cases checkCookies spec r with
      | error failure => rfl
      | ok _ =>
        dsimp only
        cases isBare r with
        | true => rfl
        | false => exact run_liftM _ d

theorem run_checkResponse (c : ResponseCheck m) (request : Request) (r : Response) (d : Decisions) :
    (c.checkResponse request r).run.run d =
      match c.specFor r.status with
      | .error failure => (.error failure, d)
      | .ok spec =>
        match BodyParsers.forRereading? r.contentType? d.renderer? c.contract.parsers with
        | none => (.error (.internal "No parser can read the response body back"), d)
        | some parser =>
          match readBack parser request r spec d.form? with
          | .error failure => (.error failure, d)
          | .ok (v, form) =>
            (c.verdict spec (judgedType d.renderer? parser) r v, { d with form? := form }) := by
  unfold checkResponse
  rw [run_bind, run_liftM]
  cases c.specFor r.status with
  | error failure => rfl
  | ok spec =>
    dsimp only
    rw [run_get_bind]
    cases BodyParsers.forRereading? r.contentType? d.renderer? c.contract.parsers with
    | none => rfl
    | some parser =>
      dsimp only
      rw [run_bind, run_adapt, run_withForm, readBack]
      rcases parser.read r.body request spec.returnType d.form? with failure | ⟨v, form⟩
      · rfl
      · exact run_verdict c spec _ r v _

theorem outcome_checkResponse (c : ResponseCheck m) (request : Request) (r : Response)
    (d : Decisions) : ((c.checkResponse request r).run.run d).1 = (do
      let spec ← c.specFor r.status
      match BodyParsers.forRereading? r.contentType? d.renderer? c.contract.parsers with
      | none => .error (.internal "No parser can read the response body back")
      | some parser => do
        let v ← ((parser.read r.body request spec.returnType d.form?).map Prod.fst).mapError
          unreadable
        c.verdict spec (judgedType d.renderer? parser) r v) := by
  rw [run_checkResponse]
  cases c.specFor r.status with
  | error failure => rfl
  | ok spec =>
    change _ = (match BodyParsers.forRereading? r.contentType? d.renderer? c.contract.parsers with
      | none => _
      | some parser => _)
    cases BodyParsers.forRereading? r.contentType? d.renderer? c.contract.parsers with
    | none => rfl
    | some parser =>
      dsimp only [readBack]
      cases parser.read r.body request spec.returnType d.form? <;> rfl

theorem outcome_accept (c : ResponseCheck m) (request : Request) (r : Response) (d : Decisions) :
    ((c.accept request r).run.run d).1 =
      if c.contract.validateResponses then
        ((c.checkResponse request r).run.run d).1 >>= fun _ => .ok r
      else .ok r := by
  unfold accept
  cases c.contract.validateResponses with
  | false => rfl
  | true =>
    simp only [if_true]
    rw [run_bind]
    rcases (c.checkResponse request r).run.run d with ⟨_ | _, d⟩ <;> rfl

theorem eq_of_accept {c : ResponseCheck m} {request : Request} {r response : Response}
    {d : Decisions} (h : ((c.accept request r).run.run d).1 = .ok response) : response = r := by
  rw [outcome_accept] at h
  split at h
  · cases hcheck : ((c.checkResponse request r).run.run d).1 with
    | error failure => rw [hcheck] at h; cases h
    | ok _ => rw [hcheck] at h; exact (Except.ok.inj h).symm
  · exact (Except.ok.inj h).symm

/-- A response that is accepted has been read back, and what is read keeps the declaration of its
status. -/
theorem verdict_of_accept {c : ResponseCheck m} {request : Request} {r : Response} {d : Decisions}
    (checked : c.contract.validateResponses = true)
    (h : ((c.accept request r).run.run d).1 = .ok r) :
    ∃ spec parser v form, c.contract.responses.find? r.status = some spec ∧
      BodyParsers.forRereading? r.contentType? d.renderer? c.contract.parsers = some parser ∧
      parser.read r.body request spec.returnType d.form? = .ok (v, form) ∧
      c.verdict spec (judgedType d.renderer? parser) r v = .ok () := by
  have hcheck : ((c.checkResponse request r).run.run d).1 = .ok () := by
    unfold accept at h
    simp only [checked, if_true] at h
    rw [run_bind] at h
    cases hrun : (c.checkResponse request r).run.run d with
    | mk outcome d₁ =>
      rw [hrun] at h
      cases outcome with
      | error failure => cases h
      | ok _ => rfl
  rw [run_checkResponse, specFor] at hcheck
  cases hspec : c.contract.responses.find? r.status with
  | none => rw [hspec] at hcheck; cases hcheck
  | some spec =>
    rw [hspec] at hcheck
    dsimp only at hcheck
    cases hparser : BodyParsers.forRereading? r.contentType? d.renderer? c.contract.parsers with
    | none => rw [hparser] at hcheck; cases hcheck
    | some parser =>
      rw [hparser] at hcheck
      dsimp only [readBack] at hcheck
      cases hread : parser.read r.body request spec.returnType d.form? with
      | error failure => rw [hread] at hcheck; cases hcheck
      | ok out =>
        rw [hread] at hcheck
        exact ⟨spec, parser, out.1, out.2, rfl, rfl, hread, hcheck⟩

theorem run_accept_of_verdict {c : ResponseCheck m} {request : Request} {r : Response}
    {d : Decisions} {spec : ResponseSpec} {parser : BodyParser} {v : Json} {form : Slot Form}
    (checked : c.contract.validateResponses = true)
    (hspec : c.contract.responses.find? r.status = some spec)
    (hparser : BodyParsers.forRereading? r.contentType? d.renderer? c.contract.parsers =
      some parser)
    (hread : parser.read r.body request spec.returnType d.form? = .ok (v, form))
    (hverdict : c.verdict spec (judgedType d.renderer? parser) r v = .ok ()) :
    (c.accept request r).run.run d = (.ok r, { d with form? := form }) := by
  have hcheck : (c.checkResponse request r).run.run d = (.ok (), { d with form? := form }) := by
    have hback : readBack parser request r spec d.form? = .ok (v, form) := by
      rw [readBack, hread]
      rfl
    rw [run_checkResponse]
    simp only [specFor, hspec, hparser, hback, hverdict]
  unfold accept
  simp only [checked, if_true]
  exact run_bind_of_ok hcheck _

theorem run_accept_of_unreadable {c : ResponseCheck m} {request : Request} {r : Response}
    {d : Decisions} {spec : ResponseSpec} {parser : BodyParser} {failure : Failure}
    (checked : c.contract.validateResponses = true)
    (hspec : c.contract.responses.find? r.status = some spec)
    (hparser : BodyParsers.forRereading? r.contentType? d.renderer? c.contract.parsers =
      some parser)
    (hread : parser.read r.body request spec.returnType d.form? = .error failure) :
    (c.accept request r).run.run d = (.error (unreadable failure), d) := by
  have hcheck : (c.checkResponse request r).run.run d = (.error (unreadable failure), d) := by
    have hback : readBack parser request r spec d.form? = .error (unreadable failure) := by
      rw [readBack, hread]
      rfl
    rw [run_checkResponse]
    simp only [specFor, hspec, hparser, hback]
  unfold accept
  simp only [checked, if_true]
  exact run_bind_of_error hcheck _

def rawAnswer (modification : Modification) (renderer : Renderer) (v : Json) : RawAnswer where
  data := v
  status := modification.status
  headers := modification.headersFor renderer.contentType
  cookies := modification.addedCookies
  renderer := renderer

theorem run_acceptRaw {c : ResponseCheck m} {modification : Modification} {renderer : Renderer}
    {d : Decisions} (hmodification : c.contract.modification = some modification)
    (hrenderer : d.renderer? = some renderer) (v : Json) :
    (c.acceptRaw v).run.run d =
      (do
        if c.contract.validateResponses then
          let spec ← c.specFor modification.status
          c.checkBody spec renderer.contentType v
        return rawAnswer modification renderer v, d) := by
  unfold acceptRaw
  simp only [hmodification]
  rw [run_get_bind]
  simp only [hrenderer]
  cases c.contract.validateResponses with
  | false => rfl
  | true =>
    simp only [if_true]
    rw [run_bind, run_liftM]
    cases c.specFor modification.status with
    | error failure => rfl
    | ok spec =>
      change _ = ((do
        c.checkBody spec renderer.contentType v
        return rawAnswer modification renderer v), d)
      dsimp only
      rw [run_bind, run_liftM]
      cases c.checkBody spec renderer.contentType v <;> rfl

theorem keepsRenderer_checkResponse (c : ResponseCheck m) (request : Request) (r : Response) :
    KeepsRenderer (c.checkResponse request r) := by
  intro d held h
  rw [run_checkResponse]
  split
  · exact h
  · split
    · exact h
    · split <;> exact h

theorem keepsRenderer_accept (c : ResponseCheck m) (request : Request) (r : Response) :
    KeepsRenderer (c.accept request r) := by
  unfold accept
  split
  · exact (c.keepsRenderer_checkResponse request r).bind fun _ => keepsRenderer_pure r
  · exact keepsRenderer_pure r

theorem keepsRenderer_acceptRaw (c : ResponseCheck m) (v : Json) : KeepsRenderer (c.acceptRaw v) := by
  unfold acceptRaw
  split
  · exact keepsRenderer_throw _
  · refine keepsRenderer_get.bind fun d => ?_
    split
    · exact keepsRenderer_throw _
    · split
      · exact (keepsRenderer_liftM _).bind fun _ => (keepsRenderer_liftM _).bind fun _ =>
          keepsRenderer_pure _
      · exact keepsRenderer_pure _

end Accord.ResponseCheck
