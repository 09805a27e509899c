import Accord.Proofs.Contract.Accepting
import Accord.Proofs.Contract.Described

namespace Accord

variable {m : Type → Type}

/-- A response is as it is declared: its body holds this value, which is of the declared type, and its
headers and cookies are those that are described. -/
structure ResponseCheck.AsDeclared (c : ResponseCheck m) (request : Request) (spec : ResponseSpec)
    (v : Json) (r : Response) : Prop where
  status : c.contract.responses.find? r.status = some spec
  body : ∀ form, BodyParser.json.read r.body request spec.returnType form = .ok (v, form)
  valid : c.checkBody spec Renderer.json.contentType v = .ok ()
  headers : ∀ name, name ∈ r.headers.names ↔ name = "content-type" ∨
    ∃ e ∈ spec.headers.getD [], e.2.schemaOnly = false ∧ Text.asciiLower e.1 = name
  cookies : ∀ name, name ∈ r.cookies.names ↔
    ∃ e ∈ spec.cookies.getD [], e.2.schemaOnly = false ∧ e.1 = name
  admitted : ∀ e ∈ r.cookies, ∀ expected, (e.1, expected) ∈ spec.cookies.getD [] →
    expected.schemaOnly = false → expected.admits e.2 = true
  contentType : r.contentType? = some Renderer.json.contentType
  registered : Renderer.json.contentType ∈ c.contract.renderers.names

namespace ResponseCheck.AsDeclared

variable {c : ResponseCheck m} {request : Request} {spec : ResponseSpec} {v : Json} {r : Response}

theorem checkHeaders_ok (h : c.AsDeclared request spec v r)
    (spelled : ∀ e ∈ spec.headers.getD [], e.2.schemaOnly = false → Text.IsAscii e.1) :
    checkHeaders spec r = .ok () := by
  refine checkHeaders_eq_ok_iff.mpr ⟨fun e he _ hreal => ?_, fun name hname hother => ?_⟩
  · have hmem := (h.headers (Text.asciiLower e.1)).mpr (.inr ⟨e, he, hreal, rfl⟩)
    exact List.mem_map.mpr ⟨_, hmem, Text.lower_asciiLower (spelled e he hreal)⟩
  · obtain ⟨k, hk, rfl⟩ := List.mem_map.mp hname
    rcases (h.headers k).mp hk with rfl | ⟨e, he, hreal, rfl⟩
    · exact absurd (by decide +kernel) hother
    · exact ⟨e, he, hreal, (Text.lower_asciiLower (spelled e he hreal)).symm⟩

theorem checkCookies_ok (h : c.AsDeclared request spec v r) : checkCookies spec r = .ok () := by
  refine checkCookies_eq_ok_iff.mpr ⟨fun e he _ hreal => ?_, fun name hname => ?_, fun e he => ?_⟩
  · exact (h.cookies e.1).mpr ⟨e, he, hreal, rfl⟩
  · exact (h.cookies name).mp hname
  · refine checkCookie_eq_ok_iff.mpr fun expected hknown => ?_
    obtain ⟨hexpected, hreal⟩ := List.mem_filter.mp (Named.mem_of_lookup hknown)
    exact h.admitted e he expected hexpected (Bool.not_eq_true' _ ▸ hreal)

theorem keepsType (h : c.AsDeclared request spec v r) : c.KeepsType r := by
  have hwanted : Binary64.zero < (MediaType.read Renderer.json.contentType).quality := by
    decide +kernel
  have hfits : (MediaType.read Renderer.json.contentType).fitsText Renderer.json.contentType =
      true := by decide +kernel
  refine .inr ⟨_, h.registered, hwanted, ?_⟩
  rw [h.contentType]
  exact hfits

theorem verdict_ok (h : c.AsDeclared request spec v r)
    (spelled : ∀ e ∈ spec.headers.getD [], e.2.schemaOnly = false → Text.IsAscii e.1) :
    c.verdict spec Renderer.json.contentType r v = .ok () :=
  verdict_eq_ok_iff.mpr ⟨h.valid, h.checkHeaders_ok spelled, h.checkCookies_ok, h.keepsType⟩

theorem accepted (h : c.AsDeclared request spec v r)
    (spelled : ∀ e ∈ spec.headers.getD [], e.2.schemaOnly = false → Text.IsAscii e.1)
    {d : Decisions} (negotiated : d.renderer? = some .json) :
    (c.accept request r).run.run d = (.ok r, d) := by
  cases hchecked : c.contract.validateResponses with
  | false =>
    unfold accept
    rw [hchecked]
    rfl
  | true =>
    have hparser : BodyParsers.forRereading? r.contentType? d.renderer? c.contract.parsers =
        some .json := by
      rw [negotiated]
      rfl
    have hverdict : c.verdict spec (judgedType d.renderer? .json) r v = .ok () := by
      rw [negotiated]
      exact h.verdict_ok spelled
    exact run_accept_of_verdict hchecked h.status hparser (h.body _) hverdict

end ResponseCheck.AsDeclared

end Accord
