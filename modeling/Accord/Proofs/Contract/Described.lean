import Accord.Proofs.Contract.Accepting
import Accord.Proofs.Contract.Building
import Accord.Proofs.Negotiation.Choosing
import Accord.Proofs.Text

namespace Accord

namespace CookieAttrs

variable {a b : CookieAttrs}

theorem agree_self (a : CookieAttrs) : a.agree a = true := by
  simp [agree]

/-- Agreement in all that is checked but for what happens on requests from other sites. -/
structure Near (a b : CookieAttrs) : Prop where
  path : a.path = b.path
  maxAge : a.maxAge = b.maxAge
  domain : a.domain.getD "" = b.domain.getD ""
  secure : a.secure.getD false = b.secure.getD false
  httpOnly : a.httpOnly.getD false = b.httpOnly.getD false

theorem agree_iff : a.agree b = true ↔ a.Near b ∧ a.sameSite = b.sameSite := by
  simp only [agree, Bool.and_eq_true, beq_iff_eq]
  constructor
  · rintro ⟨⟨⟨⟨⟨hpath, hage⟩, hdomain⟩, hsecure⟩, hhttp⟩, hsite⟩
    exact ⟨⟨hpath, hage, hdomain, hsecure, hhttp⟩, hsite⟩
  · rintro ⟨⟨hpath, hage, hdomain, hsecure, hhttp⟩, hsite⟩
    exact ⟨⟨⟨⟨⟨hpath, hage⟩, hdomain⟩, hsecure⟩, hhttp⟩, hsite⟩

end CookieAttrs

namespace ResponseCheck

open MediaType

variable {m : Type → Type} {c : ResponseCheck m} {spec : ResponseSpec} {r : Response} {v : Json}
  {contentType : String}

def Listed (spec : ResponseSpec) (contentType : String) : Prop :=
  ∀ allowed, spec.limitToContentTypes = some allowed →
    ∃ limit ∈ allowed, (read limit).essence = (read contentType).essence

/-- The type of a body of this content type: of a choice, the first member for it. -/
inductive Models (contentType : String) : Schema → Schema → Prop
  | whole {s : Schema} : s.mapping? = none → Models contentType s s
  | member {s model : Schema} {before after : List (String × Schema)} {key : String} :
      s.mapping? = some (before ++ (key, model) :: after) →
      (read key).essence = (read contentType).essence →
      (∀ e ∈ before, (read e.1).essence ≠ (read contentType).essence) → Models contentType s model

theorem checkLimit_eq_ok_iff : checkLimit spec contentType = .ok () ↔ Listed spec contentType := by
  unfold checkLimit Listed
  cases spec.limitToContentTypes with
  | none => exact ⟨fun _ _ h => (nomatch h), fun _ => rfl⟩
  | some allowed =>
    have hany : (allowed.any fun limit => (read limit).essence == (read contentType).essence) = true ↔
        ∃ limit ∈ allowed, (read limit).essence = (read contentType).essence := by
      simp only [List.any_eq_true, beq_iff_eq]
    dsimp only
    split
    · next hlisted =>
      refine ⟨fun _ limits hlimits => ?_, fun _ => rfl⟩
      cases hlimits
      exact hany.mp hlisted
    · next hunlisted =>
      exact ⟨fun h => (nomatch h), fun h => absurd (hany.mpr (h allowed rfl)) hunlisted⟩

theorem modelFor_eq_ok_iff {returnType model : Schema} :
    modelFor returnType contentType = .ok model ↔ Models contentType returnType model := by
  unfold modelFor
  cases hmapping : returnType.mapping? with
  | none =>
    constructor
    · intro h
      cases h
      exact .whole hmapping
    · rintro (_ | hmember)
      · rfl
      · cases hmapping.symm.trans hmember
  | some mapping =>
    have hfind : ∀ key model, (mapping.find? fun e => (read e.1).essence == (read contentType).essence) =
        some (key, model) ↔ (read key).essence = (read contentType).essence ∧
          ∃ before after, mapping = before ++ (key, model) :: after ∧
            ∀ e ∈ before, (read e.1).essence ≠ (read contentType).essence := by
      intro key model
      simp only [List.find?_eq_some_iff_append, beq_iff_eq, Bool.not_eq_true', beq_eq_false_iff_ne]
    dsimp only
    constructor
    · intro h
      split at h
      · next key found hfound =>
        cases h
        obtain ⟨hown, before, after, rfl, hfirst⟩ := (hfind key model).mp hfound
        exact .member hmapping hown hfirst
      · cases h
    · rintro (hwhole | ⟨hmember, hown, hfirst⟩)
      · cases hmapping.symm.trans hwhole
      · have hmodel := (hfind _ model).mpr
          ⟨hown, _, _, Option.some.inj (hmapping.symm.trans hmember), hfirst⟩
        split
        · next hfound =>
          cases hmodel.symm.trans hfound
          rfl
        · next hnone => cases hmodel.symm.trans hnone

/-- The value may be given as this content type, and is valid for the type that it then has. -/
def Valid (c : ResponseCheck m) (spec : ResponseSpec) (contentType : String) (v : Json) : Prop :=
  ∃ model normal, Models contentType spec.returnType model ∧
    c.serializer.check v model (some c.strict) = .ok normal

theorem checkBody_eq_ok_iff : c.checkBody spec contentType v = .ok () ↔
    Listed spec contentType ∧ c.Valid spec contentType v := by
  constructor
  · intro h
    obtain ⟨⟨⟩, hlimit, h⟩ := ok_of_bind h
    obtain ⟨model, hmodel, h⟩ := ok_of_bind h
    split at h
    · next normal hnormal =>
      exact ⟨checkLimit_eq_ok_iff.mp hlimit, model, normal, modelFor_eq_ok_iff.mp hmodel, hnormal⟩
    · cases h
  · rintro ⟨hlimit, model, normal, hmodel, hnormal⟩
    refine (bind_of_ok (checkLimit_eq_ok_iff.mpr hlimit) _).trans ?_
    refine (bind_of_ok (modelFor_eq_ok_iff.mpr hmodel) _).trans ?_
    rw [hnormal]
    rfl

theorem mem_describedNames {α : Type} {counts : α → Bool} {described : Option (Named α)}
    {name : String} : name ∈ describedNames counts described ↔
      ∃ e ∈ described.getD [], counts e.2 = true ∧ e.1 = name := by
  simp [describedNames]

theorem broken_else_broken_eq_ok_iff {missing extra : List String} {first second : String}
    {rest : Except Failure Unit} :
    (if !missing.isEmpty then broken first else if !extra.isEmpty then broken second else rest) =
      .ok () ↔ missing = [] ∧ extra = [] ∧ rest = .ok () := by
  cases missing <;> cases extra <;> simp [broken]

theorem checkHeaders_eq_ok_iff : checkHeaders spec r = .ok () ↔
    (∀ e ∈ spec.headers.getD [], e.2.required = true → e.2.schemaOnly = false →
      Text.lower e.1 ∈ r.headers.names.map Text.lower) ∧
    ∀ name ∈ r.headers.names.map Text.lower, name ≠ "content-type" →
      ∃ e ∈ spec.headers.getD [], e.2.schemaOnly = false ∧ Text.lower e.1 = name := by
  have hdescribed : ∀ (counts : HeaderSpec → Bool) (name : String),
      name ∈ Text.sortedSet ((describedNames counts spec.headers).map Text.lower) ↔
        ∃ e ∈ spec.headers.getD [], counts e.2 = true ∧ Text.lower e.1 = name := by
    intro counts name
    rw [Text.mem_sortedSet, List.mem_map]
    constructor
    · rintro ⟨key, hkey, rfl⟩
      obtain ⟨e, he, hcounts, rfl⟩ := mem_describedNames.mp hkey
      exact ⟨e, he, hcounts, rfl⟩
    · rintro ⟨e, he, hcounts, rfl⟩
      exact ⟨e.1, mem_describedNames.mpr ⟨e, he, hcounts, rfl⟩, rfl⟩
  refine broken_else_broken_eq_ok_iff.trans (and_congr ?_ (Iff.trans (and_iff_left rfl) ?_))
  · rw [List.filter_eq_nil_iff]
    constructor
    · intro h e he hrequired hcounts
      have hname := (hdescribed (fun h => h.required && !h.schemaOnly) (Text.lower e.1)).mpr
        ⟨e, he, by simp [hrequired, hcounts], rfl⟩
      simpa [Text.mem_sortedSet] using h _ hname
    · intro h name hname
      obtain ⟨e, he, hcounts, rfl⟩ := (hdescribed _ name).mp hname
      obtain ⟨hrequired, hreal⟩ := Bool.and_eq_true_iff.mp hcounts
      simpa [Text.mem_sortedSet] using h e he hrequired (Bool.not_eq_true' _ ▸ hreal)
  · rw [List.filter_eq_nil_iff]
    constructor
    · intro h name hname hother
      have hknown := h name (Text.mem_sortedSet.mpr hname)
      simp only [bne_iff_ne.mpr hother, Bool.true_and, Bool.not_eq_true', Bool.not_eq_false,
        List.contains_iff_mem] at hknown
      obtain ⟨e, he, hreal, rfl⟩ := (hdescribed _ name).mp hknown
      exact ⟨e, he, Bool.not_eq_true' _ ▸ hreal, rfl⟩
    · intro h name hname hextra
      obtain ⟨hother, hunknown⟩ := Bool.and_eq_true_iff.mp hextra
      obtain ⟨e, he, hreal, rfl⟩ := h name (Text.mem_sortedSet.mp hname) (bne_iff_ne.mp hother)
      have hknown := (hdescribed (fun h => !h.schemaOnly) (Text.lower e.1)).mpr
        ⟨e, he, by simp [hreal], rfl⟩
      simp only [List.contains_iff_mem.mpr hknown, Bool.not_true, Bool.false_eq_true] at hunknown

theorem has_knownCookies {name : String} : (knownCookies spec).has name = true ↔
    ∃ e ∈ spec.cookies.getD [], e.2.schemaOnly = false ∧ e.1 = name := by
  simp [knownCookies, Named.has]

theorem checkCookies_eq_ok_iff : checkCookies spec r = .ok () ↔
    (∀ e ∈ spec.cookies.getD [], e.2.required = true → e.2.schemaOnly = false →
      e.1 ∈ r.cookies.names) ∧
    (∀ name ∈ r.cookies.names, ∃ e ∈ spec.cookies.getD [], e.2.schemaOnly = false ∧ e.1 = name) ∧
    ∀ e ∈ r.cookies, checkCookie spec e.1 e.2 = .ok () := by
  refine broken_else_broken_eq_ok_iff.trans (and_congr ?_ (and_congr ?_ forM_eq_ok_iff))
  · rw [Text.sortedSet_eq_nil_iff, List.filter_eq_nil_iff]
    constructor
    · intro h e he hrequired hreal
      have hname : e.1 ∈ describedNames (fun c : CookieSpec => c.required && !c.schemaOnly)
          spec.cookies := mem_describedNames.mpr ⟨e, he, by simp [hrequired, hreal], rfl⟩
      simpa using h e.1 hname
    · intro h name hname
      obtain ⟨e, he, hcounts, rfl⟩ := mem_describedNames.mp hname
      obtain ⟨hrequired, hreal⟩ := Bool.and_eq_true_iff.mp hcounts
      simpa using h e he hrequired (Bool.not_eq_true' _ ▸ hreal)
  · rw [Text.sortedSet_eq_nil_iff, List.filter_eq_nil_iff]
    refine forall₂_congr fun name _ => ?_
    rw [Bool.not_eq_true', Bool.not_eq_false, has_knownCookies]

theorem checkCookie_eq_ok_iff {name : String} {cookie : NewCookie} :
    checkCookie spec name cookie = .ok () ↔
      ∀ expected, (knownCookies spec).lookup name = some expected → expected.admits cookie = true := by
  unfold checkCookie
  cases (knownCookies spec).lookup name with
  | none => exact ⟨fun _ _ h => (nomatch h), fun _ => rfl⟩
  | some expected =>
    dsimp only
    split
    · next hadmits =>
      refine ⟨fun _ other hother => ?_, fun _ => rfl⟩
      cases hother
      exact hadmits
    · next hnot => exact ⟨fun h => (nomatch h), fun h => absurd (h expected rfl) hnot⟩

theorem checkCookies_eq_ok_iff_near : checkCookies spec r = .ok () ↔
    (∀ e ∈ spec.cookies.getD [], e.2.required = true → e.2.schemaOnly = false →
      e.1 ∈ r.cookies.names) ∧
    ∀ e ∈ r.cookies, ∃ expected, (knownCookies spec).lookup e.1 = some expected ∧
      expected.attrs.Near e.2.attrs ∧ expected.attrs.sameSite = e.2.attrs.sameSite := by
  rw [checkCookies_eq_ok_iff]
  refine and_congr_right fun _ => ⟨fun ⟨hdescribed, hadmitted⟩ e he => ?_, fun h => ⟨?_, ?_⟩⟩
  · have hknown : e.1 ∈ (knownCookies spec).names :=
      Named.has_iff_mem_names.mp (has_knownCookies.mpr (hdescribed e.1 (List.mem_map_of_mem he)))
    cases hlookup : (knownCookies spec).lookup e.1 with
    | none => exact absurd hknown (Named.lookup_eq_none_iff_not_mem.mp hlookup)
    | some expected =>
      have hagree := checkCookie_eq_ok_iff.mp (hadmitted e he) expected hlookup
      exact ⟨expected, rfl, CookieAttrs.agree_iff.mp hagree⟩
  · intro name hname
    obtain ⟨e, he, rfl⟩ := List.mem_map.mp hname
    obtain ⟨expected, hexpected, -⟩ := h e he
    refine has_knownCookies.mp (Named.has_iff_mem_names.mpr ?_)
    exact List.mem_map_of_mem (Named.mem_of_lookup hexpected)
  · intro e he
    obtain ⟨expected, hexpected, hagree⟩ := h e he
    refine checkCookie_eq_ok_iff.mpr fun other hother => ?_
    obtain rfl := Option.some.inj (hexpected.symm.trans hother)
    exact CookieAttrs.agree_iff.mpr hagree

theorem checkContentType_eq_ok_iff : c.checkContentType r = .ok () ↔
    ∃ key ∈ c.contract.renderers.names, Binary64.zero < (MediaType.read key).quality ∧
      (MediaType.read key).fitsText (r.contentType?.getD "") = true := by
  have hany : (MediaType.byPrecedence c.contract.renderers.names).any
      (·.fitsText (r.contentType?.getD "")) = true ↔ _ := List.any_eq_true
  simp only [checkContentType]
  split
  · next hfits =>
    obtain ⟨media, hmedia, hfits⟩ := hany.mp hfits
    obtain ⟨key, hkey, rfl, hwanted⟩ := MediaType.mem_byPrecedence.mp hmedia
    exact ⟨fun _ => ⟨key, hkey, hwanted, hfits⟩, fun _ => rfl⟩
  · next hnone =>
    refine ⟨fun h => (nomatch h), ?_⟩
    rintro ⟨key, hkey, hwanted, hfits⟩
    have hmedia := MediaType.mem_byPrecedence.mpr ⟨key, hkey, rfl, hwanted⟩
    exact absurd (hany.mpr ⟨_, hmedia, hfits⟩) hnone

/-- The response has the type of some renderer, or has no body and no type, as its status demands. -/
def KeepsType (c : ResponseCheck m) (r : Response) : Prop :=
  (r.status.isBodyless = true ∧ r.body = [] ∧ r.contentType? = none) ∨
    ∃ key ∈ c.contract.renderers.names, Binary64.zero < (read key).quality ∧
      (read key).fitsText (r.contentType?.getD "") = true

theorem isBare_iff : isBare r = true ↔
    r.status.isBodyless = true ∧ r.body = [] ∧ r.contentType? = none := by
  simp only [isBare, Bool.and_eq_true, List.isEmpty_iff, Option.isNone_iff_eq_none, and_assoc]

theorem verdict_eq_ok_iff : c.verdict spec contentType r v = .ok () ↔
    c.checkBody spec contentType v = .ok () ∧ checkHeaders spec r = .ok () ∧
      checkCookies spec r = .ok () ∧ c.KeepsType r := by
  constructor
  · intro h
    obtain ⟨⟨⟩, hbody, h⟩ := ok_of_bind h
    obtain ⟨⟨⟩, hheaders, h⟩ := ok_of_bind h
    obtain ⟨⟨⟩, hcookies, h⟩ := ok_of_bind h
    refine ⟨hbody, hheaders, hcookies, ?_⟩
    split at h
    · next hbare => exact .inl (isBare_iff.mp hbare)
    · exact .inr (checkContentType_eq_ok_iff.mp h)
  · rintro ⟨hbody, hheaders, hcookies, htype⟩
    refine (bind_of_ok hbody _).trans ((bind_of_ok hheaders _).trans ((bind_of_ok hcookies _).trans ?_))
    split
    · rfl
    · next hbare =>
      exact checkContentType_eq_ok_iff.mpr (htype.resolve_left fun h => hbare (isBare_iff.mpr h))

end ResponseCheck

end Accord
