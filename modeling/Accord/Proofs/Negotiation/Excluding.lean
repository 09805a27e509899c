import Accord.Proofs.Json.Identity
import Accord.Proofs.Negotiation.Choosing

namespace Accord

namespace MediaType

/-- The entry names just the type: neither is a matter of parameters other than the quality. -/
def Names (entry m : MediaType) : Prop :=
  entry.main = m.main ∧ entry.sub = m.sub ∧ entry.rangeParams = [] ∧ m.rangeParams = []

instance (entry m : MediaType) : Decidable (entry.Names m) := inferInstanceAs (Decidable (_ ∧ _))

/-- The type falls into the range, which is another than the type itself. -/
def Covers (range m : MediaType) : Prop :=
  m.fits range = true ∧ (range.main ≠ m.main ∨ range.sub ≠ m.sub)

instance (range m : MediaType) : Decidable (range.Covers m) := inferInstanceAs (Decidable (_ ∧ _))

variable {m range : MediaType}

/-- A type that falls into a range agrees with it but for stars, and in the parameters if it has none. -/
theorem of_fits (h : m.fits range = true) :
    compatible m.main range.main = true ∧ compatible m.sub range.sub = true ∧
      (m.rangeParams = [] → range.rangeParams = []) := by
  unfold fits at h
  split at h
  · cases h
  split at h
  · cases h
  next hcompatible =>
    obtain ⟨hmain, hsub⟩ := Bool.and_eq_true_iff.mp (by simpa using hcompatible)
    refine ⟨hmain, hsub, fun hmine => ?_⟩
    rw [hmine] at h
    cases htheirs : range.rangeParams with
    | nil => rfl
    | cons p ps =>
      rw [htheirs] at h
      cases h

theorem parts_of_fits (h : m.fits range = true) :
    (m.main ≠ "" ∧ m.sub ≠ "") ∧ range.main ≠ "" ∧ range.sub ≠ "" := by
  unfold fits at h
  split at h
  · cases h
  next hparts =>
    simp only [Bool.or_eq_true, not_or, String.isEmpty_iff] at hparts
    obtain ⟨⟨⟨hmain, hrange⟩, hsub⟩, hrangeSub⟩ := hparts
    exact ⟨⟨hmain, hsub⟩, hrange, hrangeSub⟩

theorem compatible_iff {a b : String} : compatible a b = true ↔ a = b ∨ a = "*" ∨ b = "*" := by
  simp [compatible, or_assoc]

theorem names_or_covers (hplain : m.rangeParams = []) (h : m.fits range = true) :
    range.Names m ∨ range.Covers m := by
  by_cases hsame : range.main = m.main ∧ range.sub = m.sub
  · exact .inl ⟨hsame.1, hsame.2, (of_fits h).2.2 hplain, hplain⟩
  · exact .inr ⟨h, Decidable.not_and_iff_not_or_not.mp hsame⟩

theorem quality_nonneg (m : MediaType) : Binary64.zero ≤ m.quality := by
  unfold quality
  split
  · split
    · next hrange => exact hrange.1
    · decide +kernel
  · decide +kernel

theorem wanted_iff : Binary64.zero < m.quality ↔ m.quality.signed ≠ 0 := by
  have hnonneg : (0 : Int) ≤ m.quality.signed := quality_nonneg m
  change (0 : Int) < m.quality.signed ↔ _
  omega

theorem preferred?_eq_some {accepted : List MediaType} {candidates : List String} {key : String}
    (h : preferred? accepted candidates = some key) :
    ∃ range ∈ accepted, (read key).fits range = true := by
  obtain ⟨range, hrange, hfind⟩ := List.exists_of_findSome?_eq_some h
  have hfits := List.find?_some hfind
  exact ⟨range, hrange, hfits⟩

theorem preferred?_singleton {accepted : List MediaType} {key : String}
    (hrange : range ∈ accepted) (h : (read key).fits range = true) :
    preferred? accepted [key] = some key := by
  obtain ⟨chosen, hpreferred⟩ := exists_preferred hrange (List.mem_singleton_self key) h
  rw [hpreferred, List.mem_singleton.mp (mem_of_preferred hpreferred)]

end MediaType

namespace Request

/-- All that the request says it accepts, as it says it. -/
def acceptEntries (r : Request) : List MediaType :=
  ((Text.split ',' (Text.join "," ((r.headers.getAll "accept").filterMap Message.visibleText?))).filter
    fun entry => !(Text.trim entry).isEmpty).map MediaType.read

theorem mem_acceptedTypes {r : Request} {m : MediaType} :
    m ∈ r.acceptedTypes ↔ m ∈ r.acceptEntries ∧ Binary64.zero < m.quality := by
  rw [acceptedTypes, MediaType.readAccept, MediaType.mem_byPrecedence, acceptEntries, List.mem_map]
  constructor
  · rintro ⟨entry, hentry, rfl, hwanted⟩
    exact ⟨⟨entry, hentry, rfl⟩, hwanted⟩
  · rintro ⟨⟨entry, hentry, rfl⟩, hwanted⟩
    exact ⟨entry, hentry, rfl, hwanted⟩

/-- The request names the type with the quality zero, and with no other. -/
def Excludes (r : Request) (m : MediaType) : Prop :=
  (∃ entry ∈ r.acceptEntries, entry.Names m) ∧
    ∀ entry ∈ r.acceptEntries, entry.Names m → entry.quality.signed = 0

instance (r : Request) (m : MediaType) : Decidable (r.Excludes m) :=
  inferInstanceAs (Decidable (_ ∧ _))

end Request

namespace Renderers

variable {renderers : Renderers} {renderer : Renderer} {r : Request} {key : String}

/-- The key of the renderer for a request: the preferred one, or the first one if the request does not
say what it accepts. -/
def chosenKey? (renderers : Renderers) (r : Request) : Option String :=
  match renderers.names.head?.filter fun _ => r.accept?.isNone with
  | some key => some key
  | none => MediaType.preferred? r.acceptedTypes renderers.names

theorem chosenKey?_of_said (said : r.accept? ≠ none) :
    renderers.chosenKey? r = MediaType.preferred? r.acceptedTypes renderers.names := by
  have hfilter : (renderers.names.head?.filter fun _ => r.accept?.isNone) = none := by
    cases renderers.names.head? <;> simp [said]
  rw [chosenKey?, hfilter]

theorem chosenKey?_of_unsaid {first : String × Renderer} {rest : Renderers}
    (h : r.accept? = none) : chosenKey? (first :: rest) r = some first.1 := by
  rw [chosenKey?, h]
  rfl

theorem choose_eq_ok_iff : renderers.choose r = .ok renderer ↔
    ∃ key, renderers.chosenKey? r = some key ∧ renderers.lookup key = some renderer := by
  by_cases said : r.accept? = none
  · cases renderers with
    | nil =>
      have hnone : MediaType.preferred? r.acceptedTypes [] = none := by simp [MediaType.preferred?]
      simp [choose, chosenKey?, default?, Named.names, hnone]
    | cons first rest =>
      obtain ⟨key, chosen⟩ := first
      rw [choose_of_unsaid said, chosenKey?_of_unsaid said]
      simp [Named.lookup_cons_ite]
  · rw [chosenKey?_of_said said]
    cases hpreferred : MediaType.preferred? r.acceptedTypes renderers.names with
    | none =>
      obtain ⟨failure, hchoose⟩ := choose_of_unacceptable (Option.isSome_iff_ne_none.mpr said) hpreferred
      simp [hchoose]
    | some key =>
      obtain ⟨chosen, hlookup, hchoose⟩ :=
        choose_of_preferred (Option.isSome_iff_ne_none.mpr said) hpreferred
      simp [hchoose, hlookup]

/-- Some renderers serve an excluded type exactly if the request is not heard, or if another entry that is
wanted covers the type. -/
theorem excluded_served_iff (excluded : r.Excludes (MediaType.read key)) :
    (∃ (renderers : Renderers) (renderer : Renderer), renderers.chosenKey? r = some key ∧
      renderers.lookup key = some renderer ∧ renderers.choose r = .ok renderer) ↔
      r.accept? = none ∨ ∃ range ∈ r.acceptEntries, Binary64.zero < range.quality ∧
        range.Covers (MediaType.read key) := by
  obtain ⟨⟨entry, -, -, -, -, hplain⟩, hunwanted⟩ := excluded
  constructor
  · rintro ⟨renderers, renderer, hkey, -, -⟩
    refine or_iff_not_imp_left.mpr fun said => ?_
    rw [chosenKey?_of_said said] at hkey
    obtain ⟨range, hrange, hfits⟩ := MediaType.preferred?_eq_some hkey
    obtain ⟨hentry, hwanted⟩ := Request.mem_acceptedTypes.mp hrange
    refine ⟨range, hentry, hwanted, (MediaType.names_or_covers hplain hfits).resolve_left ?_⟩
    exact fun hnames => MediaType.wanted_iff.mp hwanted (hunwanted range hentry hnames)
  · intro h
    have hkey : chosenKey? [(key, Renderer.json)] r = some key := by
      by_cases said : r.accept? = none
      · exact chosenKey?_of_unsaid said
      · obtain ⟨range, hentry, hwanted, hfits, -⟩ := h.resolve_left said
        rw [chosenKey?_of_said said]
        exact MediaType.preferred?_singleton (Request.mem_acceptedTypes.mpr ⟨hentry, hwanted⟩) hfits
    have hlookup : List.lookup key [(key, Renderer.json)] = some .json := by
      rw [Named.lookup_cons_ite, if_pos rfl]
    exact ⟨_, _, hkey, hlookup, choose_eq_ok_iff.mpr ⟨key, hkey, hlookup⟩⟩

def plain : Renderer where
  contentType := "text/plain"
  render := fun v => .ok (Text.utf8 v.render)

def jsonAndPlain : Renderers := [("application/json", .json), ("text/plain", plain)]

def accepting (entries : String) : Request where
  method := "GET"
  uri := default
  headers := ⟨[("accept", Text.utf8 entries)]⟩
  body := []

theorem excluded_unserved : (accepting "application/json;q=0, text/plain").Excludes
      (MediaType.read "application/json") ∧
    ¬∃ (renderers : Renderers) (renderer : Renderer),
      renderers.chosenKey? (accepting "application/json;q=0, text/plain") = some "application/json" ∧
        renderers.lookup "application/json" = some renderer ∧
        renderers.choose (accepting "application/json;q=0, text/plain") = .ok renderer := by
  have excluded : (accepting "application/json;q=0, text/plain").Excludes
      (MediaType.read "application/json") := by decide +kernel
  refine ⟨excluded, (excluded_served_iff excluded).not.mpr ?_⟩
  decide +kernel

/-- The range covers JSON, which was to be excluded, and JSON comes first. -/
theorem excluded_served_by_star : (accepting "application/json;q=0, */*").Excludes
      (MediaType.read "application/json") ∧
    jsonAndPlain.choose (accepting "application/json;q=0, */*") = .ok .json := by
  have hkey : jsonAndPlain.chosenKey? (accepting "application/json;q=0, */*") =
      some "application/json" := by decide +kernel
  exact ⟨by decide +kernel, choose_eq_ok_iff.mpr ⟨_, hkey, rfl⟩⟩

end Renderers

end Accord
