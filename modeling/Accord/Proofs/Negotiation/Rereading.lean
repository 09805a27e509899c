import Accord.Proofs.Media
import Accord.Proofs.Negotiation.Choosing

namespace Accord.BodyParsers

variable {parsers before after : BodyParsers} {key raw : String} {contentType : Option String}
  {p q : BodyParser} {renderer : Option Renderer} {request : Request}

/-- Both choices go by one key of the parsers. -/
inductive ChosenAlike (parsers : BodyParsers) : Option String → Prop
  | unsaid : ChosenAlike parsers none
  | blank {raw : String} (blank : (Text.trim raw).isEmpty = true)
      (first : (MediaType.read raw).essence ∉ parsers.names ∨
        parsers.names.head? = some (MediaType.read raw).essence) :
      ChosenAlike parsers (some raw)
  | said {raw : String} {before after : BodyParsers} {key : String} {p : BodyParser}
      (said : (Text.trim raw).isEmpty = false)
      (split : parsers = before ++ (key, p) :: after)
      (decides : Decides (MediaType.read raw).essence before key after)
      (same : key = (MediaType.read raw).essence ∨
        before = [] ∧ (MediaType.read raw).essence ∉ parsers.names) :
      ChosenAlike parsers (some raw)

theorem Decides.of_own_key (plain : Text.contains '*' (MediaType.read raw).essence = false)
    (last : ∀ e ∈ after, ¬NamesType (MediaType.read raw).essence e.1) :
    Decides (MediaType.read raw).essence before (MediaType.read raw).essence after :=
  .named ⟨plain, MediaType.essence_read_essence raw⟩ last

theorem forRereading?_of_unoffered (unoffered : renderer.bind Renderer.rereader? = none)
    (contentType : Option String) : forRereading? contentType renderer parsers =
      ((contentType.bind fun raw => parsers.lookup (MediaType.read raw).essence).or
        (parsers.head?.map Prod.snd)) := by
  rw [forRereading?, unoffered]
  dsimp only
  cases contentType.bind fun raw => parsers.lookup (MediaType.read raw).essence <;> rfl

theorem forRereading?_ne_none (nonempty : parsers ≠ []) :
    forRereading? contentType renderer parsers ≠ none := by
  obtain ⟨⟨key, first⟩, rest, rfl⟩ := List.exists_cons_of_ne_nil nonempty
  intro hnone
  unfold forRereading? at hnone
  split at hnone
  · cases hnone
  · split at hnone
    · cases hnone
    · cases hnone

theorem choose_of_untyped (h : request.contentType? = none) :
    parsers.choose request = .ok p ↔ parsers.head?.map Prod.snd = some p := by
  rw [choose, h]
  dsimp only
  cases parsers.head? with
  | none => exact ⟨fun h => (nomatch h), fun h => (nomatch h)⟩
  | some e => exact ⟨fun h => congrArg some (Except.ok.inj h), fun h => congrArg _ (Option.some.inj h)⟩

theorem choose_of_typed {essence : String} (h : request.contentType? = some essence) :
    parsers.choose request = .ok p ↔ parsers.forType? essence = some p := by
  rw [choose, h]
  dsimp only
  cases parsers.forType? essence with
  | none => exact ⟨fun h => (nomatch h), fun h => (nomatch h)⟩
  | some q => exact ⟨fun h => congrArg some (Except.ok.inj h), fun h => congrArg _ (Option.some.inj h)⟩

theorem contentType?_of_blank (typed : request.header? "content-type" = some raw)
    (blank : (Text.trim raw).isEmpty = true) : request.contentType? = none := by
  rw [Request.contentType?, typed, Option.filter_some, blank]
  rfl

theorem contentType?_of_said (typed : request.header? "content-type" = some raw)
    (said : (Text.trim raw).isEmpty = false) :
    request.contentType? = some (MediaType.read raw).essence := by
  rw [Request.contentType?, typed, Option.filter_some, said]
  rfl

/-- Where both choices go by one key, a response is read back by the parser that a request of its content
type is given, if the renderer has no parser of its own. -/
theorem reread_as_chosen (distinct : parsers.names.Nodup)
    (unoffered : renderer.bind Renderer.rereader? = none)
    (typed : request.header? "content-type" = contentType)
    (alike : ChosenAlike parsers contentType) (chosen : parsers.choose request = .ok p) :
    forRereading? contentType renderer parsers = some p := by
  rw [forRereading?_of_unoffered unoffered]
  cases alike with
  | unsaid =>
    have huntyped : request.contentType? = none := by rw [Request.contentType?, typed]; rfl
    exact (choose_of_untyped huntyped).mp chosen
  | blank hblank hfirst =>
    have hhead := (choose_of_untyped (contentType?_of_blank typed hblank)).mp chosen
    rw [Option.bind_some]
    rcases hfirst with hnone | hfirst
    · rw [Named.lookup_eq_none_iff_not_mem.mpr hnone, Option.none_or, hhead]
    · obtain ⟨⟨key, q⟩, hq, rfl⟩ := Option.map_eq_some_iff.mp hhead
      obtain ⟨rest, rfl⟩ := List.head?_eq_some_iff.mp hq
      obtain rfl := Option.some.inj hfirst
      rw [Named.lookup_cons_ite, if_pos rfl, Option.some_or]
  | @said raw before after key q hsaid hsplit hdecides hsame =>
    have hchosen := (choose_of_typed (contentType?_of_said typed hsaid)).mp chosen
    have hq : parsers.forType? (MediaType.read raw).essence = some q :=
      forType?_eq_some_iff.mpr ⟨before, key, after, hsplit, hdecides⟩
    obtain rfl := Option.some.inj (hq.symm.trans hchosen)
    rw [Option.bind_some]
    rcases hsame with rfl | ⟨rfl, hnone⟩
    · have hmem : ((MediaType.read raw).essence, q) ∈ parsers :=
        hsplit ▸ List.mem_append_right before List.mem_cons_self
      rw [(Named.lookup_iff_mem distinct).mpr hmem, Option.some_or]
    · rw [Named.lookup_eq_none_iff_not_mem.mpr hnone, Option.none_or, hsplit]
      rfl

theorem chosenAlike_of_registered (distinct : parsers.names.Nodup)
    (written : ∀ key ∈ parsers.names, (MediaType.read key).essence = key)
    (said : (Text.trim raw).isEmpty = false)
    (plain : Text.contains '*' (MediaType.read raw).essence = false)
    (registered : (MediaType.read raw).essence ∈ parsers.names) :
    ChosenAlike parsers (some raw) := by
  obtain ⟨⟨key, p⟩, hmem, hkey⟩ := List.mem_map.mp registered
  obtain ⟨before, after, hsplit⟩ := List.append_of_mem hmem
  obtain rfl : key = (MediaType.read raw).essence := hkey
  refine .said said hsplit (.of_own_key plain fun e he hnames => ?_) (.inl rfl)
  have hafter : e.1 ∈ Named.names parsers := by
    rw [hsplit]
    exact List.mem_map_of_mem (List.mem_append_right before (List.mem_cons_of_mem _ he))
  have hown : e.1 = (MediaType.read raw).essence := (written _ hafter).symm.trans hnames.2
  rw [hsplit, Named.names, List.map_append, List.map_cons] at distinct
  refine (List.nodup_cons.mp (List.nodup_append.mp distinct).2.1).1 ?_
  exact List.mem_map.mpr ⟨e, he, hown⟩

theorem chosenAlike_of_reread (apart : (parsers.map Prod.snd).Nodup)
    (unoffered : renderer.bind Renderer.rereader? = none)
    (typed : request.header? "content-type" = contentType) (chosen : parsers.choose request = .ok p)
    (reread : forRereading? contentType renderer parsers = some p) :
    ChosenAlike parsers contentType := by
  have hkey : ∀ {key key' : String}, (key, p) ∈ parsers → (key', p) ∈ parsers → key = key' :=
    fun h h' => congrArg Prod.fst (List.inj_on_of_nodup_map apart h h' rfl)
  have hfirst : ∀ {key : String}, (key, p) ∈ parsers → parsers.head?.map Prod.snd = some p →
      ∃ rest, parsers = (key, p) :: rest := by
    intro key hmem hhead
    obtain ⟨⟨first, q⟩, hq, rfl⟩ := Option.map_eq_some_iff.mp hhead
    obtain ⟨rest, hsplit⟩ := List.head?_eq_some_iff.mp hq
    exact ⟨rest, hkey hmem (List.mem_of_head? hq) ▸ hsplit⟩
  rw [forRereading?_of_unoffered unoffered] at reread
  cases contentType with
  | none => exact .unsaid
  | some raw =>
    rw [Option.bind_some] at reread
    cases hblank : (Text.trim raw).isEmpty with
    | true =>
      refine .blank hblank ?_
      have hhead := (choose_of_untyped (contentType?_of_blank typed hblank)).mp chosen
      cases hlookup : parsers.lookup (MediaType.read raw).essence with
      | none => exact .inl (Named.lookup_eq_none_iff_not_mem.mp hlookup)
      | some q =>
        rw [hlookup, Option.some_or] at reread
        obtain rfl := Option.some.inj reread
        obtain ⟨rest, rfl⟩ := hfirst (Named.mem_of_lookup hlookup) hhead
        exact .inr rfl
    | false =>
      have hchosen := (choose_of_typed (contentType?_of_said typed hblank)).mp chosen
      obtain ⟨before, key, after, hsplit, hdecides⟩ := forType?_eq_some_iff.mp hchosen
      have hmem : (key, p) ∈ parsers := hsplit ▸ List.mem_append_right before List.mem_cons_self
      refine .said hblank hsplit hdecides ?_
      cases hlookup : parsers.lookup (MediaType.read raw).essence with
      | some q =>
        rw [hlookup, Option.some_or] at reread
        obtain rfl := Option.some.inj reread
        exact .inl (hkey hmem (Named.mem_of_lookup hlookup))
      | none =>
        rw [hlookup, Option.none_or] at reread
        obtain ⟨rest, hrest⟩ := hfirst hmem reread
        refine .inr ⟨?_, Named.lookup_eq_none_iff_not_mem.mp hlookup⟩
        cases before with
        | nil => rfl
        | cons e before =>
          obtain ⟨rfl, rfl⟩ := List.cons.inj (hrest.symm.trans hsplit)
          rw [hsplit] at apart
          refine absurd ?_ (List.nodup_cons.mp apart).1
          exact List.mem_map_of_mem (List.mem_append_right before List.mem_cons_self)

def textOf (contentType : String) : BodyParser where
  contentType := contentType
  read := fun body _ _ => pure (.string (Text.ofUtf8Lossy body))

def noteOf (contentType : String) : Request where
  method := "POST"
  uri := ⟨none, "", "/", none⟩
  headers := ⟨[("content-type", Text.utf8 contentType)]⟩
  body := Text.utf8 "a"

def rangeFirst : BodyParsers := [("Text/*", textOf "text/*"), ("application/json", .json)]

theorem rangeFirst_rereads : forRereading? (some "Text/Plain; charset=utf-8") none rangeFirst =
    some (textOf "text/*") := by
  have htyped : (noteOf "Text/Plain; charset=utf-8").header? "content-type" =
    some "Text/Plain; charset=utf-8" := by decide +kernel
  have hsaid : (Text.trim "Text/Plain; charset=utf-8").isEmpty = false := by decide +kernel
  have hdecides : Decides (MediaType.read "Text/Plain; charset=utf-8").essence [] "Text/*"
      [("application/json", .json)] := by
    refine .caught (by decide +kernel) (by decide +kernel) (by decide +kernel) ?_ (by decide +kernel)
    exact fun e he => nomatch he
  have hnone : (MediaType.read "Text/Plain; charset=utf-8").essence ∉ rangeFirst.names := by
    decide +kernel
  have hchosen : rangeFirst.choose (noteOf "Text/Plain; charset=utf-8") = .ok (textOf "text/*") :=
    (choose_of_typed (contentType?_of_said htyped hsaid)).mpr
      (forType?_eq_some_iff.mpr ⟨[], _, _, rfl, hdecides⟩)
  exact reread_as_chosen (by decide +kernel) rfl htyped
    (.said hsaid rfl hdecides (.inr ⟨rfl, hnone⟩)) hchosen

/-- A parser registered for plain text under a name in capitals serves requests, but reads no response
back. -/
theorem capitals_not_reread :
    let parsers : BodyParsers := [("application/json", .json), ("Text/Plain", textOf "text/plain")]
    parsers.names.Nodup ∧
      (noteOf "text/plain").header? "content-type" = some "text/plain" ∧
      parsers.choose (noteOf "text/plain") = .ok (textOf "text/plain") ∧
      forRereading? (some "text/plain") none parsers = some .json ∧
      textOf "text/plain" ≠ .json := by
  refine ⟨by decide +kernel, by decide +kernel, ?_, ?_, ?_⟩
  · with_unfolding_all rfl
  · with_unfolding_all rfl
  · exact fun h => absurd (congrArg BodyParser.contentType h) (by decide)

end Accord.BodyParsers
