import Accord.Proofs.Message.Headers
import Accord.Trial.Draft

namespace Accord.Trial.Draft

variable {d : Draft} {r : Request} {headers : Headers}

theorem build_eq_ok_iff : d.build = .ok r ↔ d.fault? = none ∧
    ∃ uri headers, Uri.read d.fullUri = .ok uri ∧ d.fullHeaders = .ok headers ∧
      r = { method := d.method, uri := uri, headers := headers, body := d.body, pathParams := d.pathParams } := by
  unfold build
  cases hfault : d.fault? with
  | some fault => simp
  | none =>
    cases huri : Uri.read d.fullUri with
    | error e => simp [Except.mapError, bind, Except.bind]
    | ok uri =>
      cases hheaders : d.fullHeaders with
      | error fault => simp [Except.mapError, bind, Except.bind]
      | ok headers =>
        simp [Except.mapError, bind, Except.bind, pure, Except.pure, eq_comm]

theorem exists_fullHeaders (h : d.fullHeaders = .ok headers) (others : Headers) :
    ∃ full, ({ d with headers := others } : Draft).fullHeaders = .ok full ∧
      ∀ k, k ≠ "cookie" → full.entries.lookup k = others.entries.lookup k := by
  unfold fullHeaders at h ⊢
  dsimp only at h ⊢
  split
  · exact ⟨others, rfl, fun _ _ => rfl⟩
  · next hcookies =>
    rw [if_neg hcookies] at h
    generalize headerValue (Text.join "; " (d.cookies.map _)) = written at h ⊢
    cases written with
    | error fault => cases h
    | ok value =>
      refine ⟨others.set "cookie" value, rfl, fun k hk => ?_⟩
      rw [Headers.lookup_set, if_neg hk]

theorem withContentType_of_headerValue {value : String} {bytes : Bytes} (hvalue : headerValue value = .ok bytes)
    (d : Draft) : d.withContentType value = { d with headers := d.headers.set "content-type" bytes } := by
  have hname : Message.headerName? "content-type" = some "content-type" := by decide +kernel
  unfold withContentType withHeader
  rw [hname]
  dsimp only
  rw [hvalue]

theorem exists_build_withContent (h : d.build = .ok r) (body : Bytes) {value : String} {bytes : Bytes}
    (hvalue : headerValue value = .ok bytes) :
    ∃ r', ((d.withBody body).withContentType value).build = .ok r' ∧ r'.method = d.method ∧ r'.body = body ∧
      r'.headers.get? "content-type" = some bytes := by
  obtain ⟨hfault, uri, headers, huri, hheaders, -⟩ := build_eq_ok_iff.mp h
  obtain ⟨full, hfull, hkept⟩ := exists_fullHeaders hheaders (d.headers.set "content-type" bytes)
  refine ⟨_, build_eq_ok_iff.mpr ⟨?_, uri, full, ?_, ?_, rfl⟩, ?_, ?_, ?_⟩
  all_goals rw [withContentType_of_headerValue hvalue]
  · exact hfault
  · exact huri
  · exact hfull
  · rfl
  · rfl
  · have hlower : Text.asciiLower "content-type" = "content-type" := by decide +kernel
    rw [Headers.get?_eq_lookup, hlower, hkept _ (by decide), Headers.lookup_set, if_pos rfl]

end Accord.Trial.Draft
