import Accord.Proofs.Contract.Specs
import Accord.Proofs.Schema.Sameness

namespace Accord

namespace ResponseSpec

variable {α : Type} [BEq α] [LawfulBEq α]

theorem sameNamed_iff {xs ys : Option (Named α)} :
    sameNamed xs ys = true ↔ Option.Rel (Named.Alike Eq) xs ys := by
  cases xs with
  | none => cases ys <;> simp [sameNamed]
  | some xs =>
    cases ys with
    | none => simp [sameNamed]
    | some ys =>
      rw [sameNamed, Bool.and_eq_true, beq_iff_eq, Option.rel_some_some, List.all_eq_true]
      constructor
      · rintro ⟨hlength, hvalues⟩
        refine ⟨hlength, fun e he => ?_⟩
        have hvalue := hvalues e he
        dsimp only at hvalue
        cases hlookup : ys.lookup e.1 with
        | none =>
          rw [hlookup] at hvalue
          cases hvalue
        | some y =>
          rw [hlookup] at hvalue
          exact ⟨y, rfl, beq_iff_eq.mp hvalue⟩
      · intro halike
        refine ⟨halike.length, fun e he => ?_⟩
        obtain ⟨y, hlookup, hsame⟩ := halike.related e he
        dsimp only
        rw [hlookup]
        exact beq_iff_eq.mpr hsame

theorem sameNamed_symm {xs ys : Option (Named α)}
    (hxs : ∀ named, xs = some named → named.names.Nodup)
    (hys : ∀ named, ys = some named → named.names.Nodup) (h : sameNamed xs ys = true) :
    sameNamed ys xs = true := by
  rw [sameNamed_iff] at h ⊢
  cases h with
  | none => exact .none
  | some halike => exact .some (halike.symm (hxs _ rfl) (hys _ rfl) fun _ _ _ _ => Eq.symm)

theorem sameNamed_trans {xs ys zs : Option (Named α)} (h : sameNamed xs ys = true)
    (h' : sameNamed ys zs = true) : sameNamed xs zs = true := by
  rw [sameNamed_iff] at h h' ⊢
  cases h with
  | none => exact h'
  | some halike =>
    cases h' with
    | some halike' => exact .some (halike.trans halike' fun _ _ _ _ => Eq.trans)

structure NamesApart (spec : ResponseSpec) : Prop where
  returnType : spec.returnType.NamesApart
  headers : ∀ named, spec.headers = some named → named.names.Nodup
  cookies : ∀ named, spec.cookies = some named → named.names.Nodup

theorem same_iff {a b : ResponseSpec} : a.same b = true ↔
    Schema.Same a.returnType b.returnType ∧ a.status = b.status ∧
      sameNamed a.headers b.headers = true ∧ sameNamed a.cookies b.cookies = true ∧
      a.description = b.description ∧ a.limitToContentTypes = b.limitToContentTypes := by
  simp only [same, Bool.and_eq_true, beq_iff_eq, and_assoc]
  rfl

theorem same_symm {a b : ResponseSpec} (ha : a.NamesApart) (hb : b.NamesApart)
    (h : a.same b = true) : b.same a = true := by
  obtain ⟨htype, hstatus, hheaders, hcookies, hdescription, hlimit⟩ := same_iff.mp h
  exact same_iff.mpr ⟨Schema.same_symm ha.returnType hb.returnType htype, hstatus.symm,
    sameNamed_symm ha.headers hb.headers hheaders, sameNamed_symm ha.cookies hb.cookies hcookies,
    hdescription.symm, hlimit.symm⟩

theorem same_trans {a b c : ResponseSpec} (h : a.same b = true) (h' : b.same c = true) :
    a.same c = true := by
  obtain ⟨htype, hstatus, hheaders, hcookies, hdescription, hlimit⟩ := same_iff.mp h
  obtain ⟨htype', hstatus', hheaders', hcookies', hdescription', hlimit'⟩ := same_iff.mp h'
  exact same_iff.mpr ⟨Schema.same_trans htype htype', hstatus.trans hstatus',
    sameNamed_trans hheaders hheaders', sameNamed_trans hcookies hcookies',
    hdescription.trans hdescription', hlimit.trans hlimit'⟩

end ResponseSpec

namespace Contract

variable {endpoint : String}

theorem same_of_checkUnique {known : ResponseSpecs} {specs : List ResponseSpec}
    (h : checkUnique endpoint known specs = .ok ()) {spec : ResponseSpec} (hspec : spec ∈ specs) :
    ∃ first, ResponseSpecs.find? spec.status (known ++ specs) = some first ∧
      (first = spec ∨ first.same spec = true) := by
  induction specs generalizing known with
  | nil => cases hspec
  | cons next rest ih =>
    unfold checkUnique at h
    cases hknown : known.find? next.status with
    | some first =>
      simp only [hknown] at h
      split at h
      · next hsame =>
        rcases List.mem_cons.mp hspec with rfl | hspec
        · refine ⟨first, ?_, .inr hsame⟩
          rw [ResponseSpecs.find?_append, hknown, Option.some_or]
        · obtain ⟨found, hfound, hsame'⟩ := ih h hspec
          refine ⟨found, ?_, hsame'⟩
          rw [ResponseSpecs.find?_append] at hfound ⊢
          rw [ResponseSpecs.find?_cons]
          split
          · next hstatus =>
            rw [← hstatus, hknown, Option.some_or] at hfound ⊢
            exact hfound
          · exact hfound
      · cases h
    | none =>
      simp only [hknown] at h
      rcases List.mem_cons.mp hspec with rfl | hspec
      · refine ⟨spec, ?_, .inl rfl⟩
        rw [ResponseSpecs.find?_append, hknown, Option.none_or, ResponseSpecs.find?_cons,
          if_pos rfl]
      · obtain ⟨found, hfound, hsame⟩ := ih h hspec
        exact ⟨found, by rwa [List.append_assoc] at hfound, hsame⟩

/-- Of declarations that are checked, the one that is kept for a status is the same as all others of
it. A declaration with a bound that is NaN does not equal itself, so the kept one is told apart. -/
theorem same_of_kept {specs : List ResponseSpec} (h : checkUnique endpoint [] specs = .ok ())
    (apart : ∀ spec ∈ specs, spec.NamesApart) {spec : ResponseSpec} (hspec : spec ∈ specs) :
    ∃ kept, (ResponseSpecs.ofList specs).find? spec.status = some kept ∧
      (kept = spec ∨ kept.same spec = true) := by
  obtain ⟨kept, hmem, hkept⟩ := ResponseSpecs.exists_find?_ofList hspec
  have hstatus := List.find?_some hkept
  obtain ⟨first, hfirst, hsame⟩ := same_of_checkUnique h hspec
  obtain ⟨first', hfirst', hsame'⟩ := same_of_checkUnique h hmem
  rw [beq_iff_eq.mp hstatus] at hfirst'
  obtain rfl := Option.some.inj (hfirst.symm.trans hfirst')
  refine ⟨kept, hkept, ?_⟩
  rcases hsame' with rfl | hsame'
  · exact hsame
  · have hfirstMem : first ∈ specs := List.mem_of_find?_eq_some hfirst
    have hback := ResponseSpec.same_symm (apart _ hfirstMem) (apart _ hmem) hsame'
    rcases hsame with rfl | hsame
    · exact .inr hback
    · exact .inr (ResponseSpec.same_trans hback hsame)

end Contract

end Accord
