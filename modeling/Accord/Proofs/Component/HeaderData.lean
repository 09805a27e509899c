import Accord.Component.Extraction
import Accord.Proofs.Json.Members
import Accord.Proofs.Message.Headers

namespace Accord

def Text.hyphenated (s : String) : String :=
  String.ofList (s.toList.map fun c => if c = '_' then '-' else c)

theorem Text.asciiLower_hyphenated (s : String) :
    asciiLower (hyphenated (asciiLower s)) = hyphenated (asciiLower s) := by
  simp only [asciiLower, hyphenated, String.toList_ofList, List.map_map]
  refine congrArg String.ofList (List.map_congr_left fun c _ => ?_)
  by_cases h : c.toLower = '_'
  · simp only [Function.comp_apply, h, if_true]
    rfl
  · simp only [Function.comp_apply, h, if_false, toLower_toLower]

namespace Headers

variable {h : Headers} {name other wire key : String} {value : Json}

def InLowerCase (h : Headers) : Prop := ∀ name ∈ h.names, Text.asciiLower name = name

def joined (h : Headers) (name : String) : Json :=
  .string (Text.join ", " ((h.getAll name).map Text.ofUtf8Lossy))

/-- The header that a field means by its name on the wire: the one of this name in lower case, or, if there is none,
the one of the name with hyphens. -/
inductive Means (h : Headers) (wire : String) : String → Prop
  | plain (present : Text.asciiLower wire ∈ h.names) : Means h wire (Text.asciiLower wire)
  | hyphenated (absent : Text.asciiLower wire ∉ h.names)
      (present : Text.hyphenated (Text.asciiLower wire) ∈ h.names) :
      Means h wire (Text.hyphenated (Text.asciiLower wire))

theorem Means.present (means : h.Means wire name) : name ∈ h.names := by
  cases means <;> assumption

theorem Means.unique (means : h.Means wire name) (means' : h.Means wire other) : name = other := by
  cases means with
  | plain present =>
    cases means' with
    | plain => rfl
    | hyphenated absent _ => exact absurd present absent
  | hyphenated absent _ =>
    cases means' with
    | plain present => exact absurd present absent
    | hyphenated => rfl

theorem means_self (hlower : Text.asciiLower name = name) (present : name ∈ h.names) :
    h.Means name name := by
  have means : h.Means name (Text.asciiLower name) := .plain (hlower.symm ▸ present)
  rwa [hlower] at means

theorem getAll_eq_nil_iff : h.getAll name = [] ↔ Text.asciiLower name ∉ h.names := by
  rw [getAll, List.map_eq_nil_iff, List.filter_eq_nil_iff, mem_names, List.mem_map, not_exists]
  refine forall_congr' fun e => ?_
  rw [not_and]
  exact imp_congr_right fun _ => not_congr beq_iff_eq

theorem mem_getAll {e : String × Bytes} (he : e ∈ h.entries) (hlower : Text.asciiLower e.1 = e.1) :
    e.2 ∈ h.getAll e.1 :=
  List.mem_map_of_mem (List.mem_filter.mpr ⟨he, beq_iff_eq.mpr hlower.symm⟩)

end Headers

theorem Request.inLowerCase_of_ofParts {method uri : String} {headers : List (String × String)}
    {body : Bytes} {r : Request} (h : ofParts method uri headers body = .ok r) :
    r.headers.InLowerCase := by
  unfold ofParts at h
  split at h
  · cases h
  · split at h
    · cases h
    · obtain ⟨added, hadded, hr⟩ := ok_of_bind h
      cases hr
      refine foldlM_keeps (P := Headers.InLowerCase) (fun e _ known next hknown hnext => ?_) hadded
        (fun name hname => nomatch Headers.mem_names.mp hname)
      dsimp only at hnext
      split at hnext
      · cases hnext
      · next lowered hlowered =>
        split at hnext
        · cases hnext
          intro name hname
          rw [Headers.mem_names, Headers.append, List.map_append, List.mem_append] at hname
          rcases hname with hname | hname
          · exact hknown name (Headers.mem_names.mpr hname)
          · rw [List.mem_singleton.mp hname, ← (Message.headerName?_eq_some_iff.mp hlowered).2]
            exact Text.asciiLower_asciiLower _
        · cases hnext

namespace Component

open Headers

variable {h : Headers} {model : Model Schema} {name wire key : String} {value : Json}

theorem joinedHeader?_eq (h : Headers) (name : String) :
    joinedHeader? h name = if Text.asciiLower name ∈ h.names then some (h.joined name) else none := by
  have hempty : ((h.getAll name).map Text.ofUtf8Lossy).isEmpty = true ↔ Text.asciiLower name ∉ h.names := by
    rw [List.isEmpty_iff, List.map_eq_nil_iff, getAll_eq_nil_iff]
  rw [joinedHeader?]
  by_cases hname : Text.asciiLower name ∈ h.names
  · rw [if_pos hname, if_neg fun hnil => hempty.mp hnil hname]
    rfl
  · rw [if_neg hname, if_pos (hempty.mpr hname)]

theorem headerFor?_eq (h : Headers) (wire : String) : headerFor? h wire =
    if Text.asciiLower wire ∈ h.names then some (Text.asciiLower wire, h.joined (Text.asciiLower wire))
    else if Text.hyphenated (Text.asciiLower wire) ∈ h.names then
      some (Text.hyphenated (Text.asciiLower wire), h.joined (Text.hyphenated (Text.asciiLower wire)))
    else none := by
  have hcandidates : headerFor? h wire =
      [Text.asciiLower wire, Text.hyphenated (Text.asciiLower wire)].findSome? fun name =>
        (joinedHeader? h name).map fun v => (name, v) := rfl
  simp only [hcandidates, List.findSome?_cons, List.findSome?_nil, joinedHeader?_eq,
    Text.asciiLower_asciiLower, Text.asciiLower_hyphenated]
  by_cases hplain : Text.asciiLower wire ∈ h.names
  · simp only [if_pos hplain, Option.map_some]
  · by_cases hhyphenated : Text.hyphenated (Text.asciiLower wire) ∈ h.names
    · simp only [if_neg hplain, if_pos hhyphenated, Option.map_none, Option.map_some]
    · simp only [if_neg hplain, if_neg hhyphenated, Option.map_none]

theorem headerFor?_eq_some_iff :
    headerFor? h wire = some (name, value) ↔ h.Means wire name ∧ value = h.joined name := by
  have hmeant {meant : String} (means : h.Means wire meant) :
      some (meant, h.joined meant) = some (name, value) ↔ h.Means wire name ∧ value = h.joined name := by
    rw [Option.some.injEq, Prod.mk.injEq]
    constructor
    · rintro ⟨rfl, rfl⟩
      exact ⟨means, rfl⟩
    · rintro ⟨means', rfl⟩
      obtain rfl := means.unique means'
      exact ⟨rfl, rfl⟩
  rw [headerFor?_eq]
  split
  · next hplain => exact hmeant (.plain hplain)
  · next hplain =>
    split
    · next hhyphenated => exact hmeant (.hyphenated hplain hhyphenated)
    · next hhyphenated =>
      refine ⟨fun hnone => (nomatch hnone), fun ⟨means, _⟩ => ?_⟩
      cases means with
      | plain present => exact absurd present hplain
      | hyphenated _ present => exact absurd present hhyphenated

/-- What the fields of a model take: their names on the wire, the headers that they mean, and what these hold. -/
def headersTaken (h : Headers) (model : Model Schema) : List (String × String × Json) :=
  model.fields.filterMap fun (name, field) =>
    (headerFor? h (field.wireName name)).map fun (used, v) => (field.wireName name, used, v)

def membersTaken (h : Headers) (model : Model Schema) : List (String × Json) :=
  Json.sortMembers ((headersTaken h model).map fun (wire, _, v) => (wire, v))

def headersLeft (h : Headers) (model : Model Schema) : List String :=
  h.names.filter fun name =>
    !((headersTaken h model).map fun (_, used, _) => used).contains name &&
      ((membersTaken h model).lookup name).isNone

theorem mem_headersTaken : (wire, name, value) ∈ headersTaken h model ↔
    (∃ e ∈ model.fields, e.2.wireName e.1 = wire) ∧ h.Means wire name ∧ value = h.joined name := by
  rw [headersTaken, List.mem_filterMap, ← headerFor?_eq_some_iff]
  constructor
  · rintro ⟨e, he, htaken⟩
    obtain ⟨⟨used, v⟩, hfound, hentry⟩ := Option.map_eq_some_iff.mp htaken
    cases hentry
    exact ⟨⟨e, he, rfl⟩, hfound⟩
  · rintro ⟨⟨e, he, rfl⟩, hfound⟩
    exact ⟨e, he, Option.map_eq_some_iff.mpr ⟨_, hfound, rfl⟩⟩

theorem lookup_membersTaken_eq_some_iff : (membersTaken h model).lookup key = some value ↔
    (∃ e ∈ model.fields, e.2.wireName e.1 = key) ∧ ∃ name, h.Means key name ∧ value = h.joined name := by
  have hmem {v : Json} : (key, v) ∈ ((headersTaken h model).map fun (wire, _, v) => (wire, v)).reverse ↔
      (∃ e ∈ model.fields, e.2.wireName e.1 = key) ∧ ∃ name, h.Means key name ∧ v = h.joined name := by
    rw [List.mem_reverse, List.mem_map, ← exists_and_left]
    constructor
    · rintro ⟨⟨wire, name, v⟩, htaken, hentry⟩
      cases hentry
      exact ⟨name, mem_headersTaken.mp htaken⟩
    · rintro ⟨name, hparts⟩
      exact ⟨(key, name, v), mem_headersTaken.mpr hparts, rfl⟩
  rw [membersTaken, Json.lookup_sortMembers, Named.lookup_iff_mem_of_alike, hmem]
  -- Fields with one name on the wire mean one header, so it does not matter which of them is last.
  intro v w hv hw
  obtain ⟨-, name, means, rfl⟩ := hmem.mp hv
  obtain ⟨-, other, means', rfl⟩ := hmem.mp hw
  rw [means.unique means']

theorem mem_headersLeft (lower : h.InLowerCase) : name ∈ headersLeft h model ↔
    name ∈ h.names ∧ ∀ e ∈ model.fields, ¬h.Means (e.2.wireName e.1) name := by
  have hconsumed : name ∈ (headersTaken h model).map (fun (_, used, _) => used) ↔
      ∃ e ∈ model.fields, h.Means (e.2.wireName e.1) name := by
    rw [List.mem_map]
    constructor
    · rintro ⟨⟨wire, used, v⟩, htaken, rfl⟩
      obtain ⟨⟨e, he, rfl⟩, means, -⟩ := mem_headersTaken.mp htaken
      exact ⟨e, he, means⟩
    · rintro ⟨e, he, means⟩
      exact ⟨(_, name, _), mem_headersTaken.mpr ⟨⟨e, he, rfl⟩, means, rfl⟩, rfl⟩
  rw [headersLeft, List.mem_filter, Bool.and_eq_true_iff, Bool.not_eq_true', ← Bool.not_eq_true,
    List.contains_iff_mem, hconsumed, Option.isNone_iff_eq_none]
  refine and_congr_right fun present => ⟨fun hleft e he means => hleft.1 ⟨e, he, means⟩, fun hleft => ?_⟩
  refine ⟨fun ⟨e, he, means⟩ => hleft e he means, ?_⟩
  -- A member that has the name of a header is that of a field that means this header.
  cases hfound : (membersTaken h model).lookup name with
  | none => rfl
  | some v =>
    obtain ⟨⟨e, he, hwire⟩, -⟩ := lookup_membersTaken_eq_some_iff.mp hfound
    exact absurd (hwire.symm ▸ means_self (lower name present) present) (hleft e he)

def addHeader (h : Headers) (members : List (String × Json)) (name : String) : List (String × Json) :=
  match joinedHeader? h name with
  | some v => Json.insertMember name v members
  | none => members

theorem addHeader_eq (members : List (String × Json)) (hlower : Text.asciiLower name = name)
    (present : name ∈ h.names) :
    addHeader h members name = Json.insertMember name (h.joined name) members := by
  rw [addHeader, joinedHeader?_eq, hlower, if_pos present]

theorem headerMembers_eq (h : Headers) (model : Model Schema) :
    headerMembers h (.object model) = (headersLeft h model).foldl (addHeader h) (membersTaken h model) := rfl

theorem foldl_addHeader (lower : h.InLowerCase) {names : List String}
    (present : ∀ name ∈ names, name ∈ h.names) {members : List (String × Json)}
    (ascending : Json.KeysAscending members) :
    Json.KeysAscending (names.foldl (addHeader h) members) ∧ ∀ key,
      (names.foldl (addHeader h) members).lookup key =
        if key ∈ names then some (h.joined key) else members.lookup key := by
  induction names using List.reverseRecOn with
  | nil => exact ⟨ascending, fun key => (if_neg List.not_mem_nil).symm⟩
  | append_singleton names name ih =>
    obtain ⟨hascending, hlookup⟩ := ih fun name hname => present name (List.mem_append_left _ hname)
    have hname := present name (List.mem_append_right _ List.mem_cons_self)
    rw [List.foldl_append, List.foldl_cons, List.foldl_nil, addHeader_eq _ (lower name hname) hname]
    refine ⟨Json.insertMember_ascending hascending, fun key => ?_⟩
    rw [Json.lookup_insertMember, hlookup]
    by_cases hkey : key = name
    · rw [if_pos hkey, if_pos (List.mem_append_right _ (List.mem_singleton.mpr hkey)), hkey]
    · have hmem : key ∈ names ++ [name] ↔ key ∈ names := by
        rw [List.mem_append, List.mem_singleton, or_iff_left hkey]
      rw [if_neg hkey, if_congr hmem rfl rfl]

theorem headerMembers_parts (lower : h.InLowerCase) (model : Model Schema) :
    Json.KeysAscending (headerMembers h (.object model)) ∧ ∀ key,
      (headerMembers h (.object model)).lookup key =
        if key ∈ headersLeft h model then some (h.joined key) else (membersTaken h model).lookup key := by
  rw [headerMembers_eq]
  exact foldl_addHeader lower (fun name hname => ((mem_headersLeft lower).mp hname).1)
    (Json.sortMembers_ascending _)

theorem lookup_headerMembers (lower : h.InLowerCase) :
    (headerMembers h (.object model)).lookup key = some value ↔ ∃ name ∈ h.names, value = h.joined name ∧
      ((∃ e ∈ model.fields, e.2.wireName e.1 = key ∧ h.Means key name) ∨
        key = name ∧ ∀ e ∈ model.fields, ¬h.Means (e.2.wireName e.1) name) := by
  rw [(headerMembers_parts lower model).2]
  split
  · next hother =>
    obtain ⟨present, hleft⟩ := (mem_headersLeft lower).mp hother
    constructor
    · intro hvalue
      exact ⟨key, present, (Option.some.inj hvalue).symm, .inr ⟨rfl, hleft⟩⟩
    · rintro ⟨name, -, rfl, ⟨e, he, rfl, -⟩ | ⟨rfl, -⟩⟩
      · exact absurd (means_self (lower _ present) present) (hleft e he)
      · rfl
  · next hnone =>
    rw [lookup_membersTaken_eq_some_iff]
    constructor
    · rintro ⟨⟨e, he, hwire⟩, name, means, rfl⟩
      exact ⟨name, means.present, rfl, .inl ⟨e, he, hwire, means⟩⟩
    · rintro ⟨name, present, rfl, ⟨e, he, hwire, means⟩ | ⟨rfl, hleft⟩⟩
      · exact ⟨⟨e, he, hwire⟩, name, means, rfl⟩
      · exact absurd ((mem_headersLeft lower).mpr ⟨present, hleft⟩) hnone

/-- The data of the component for headers has a member for each field that means a header of the request, with all
values of this header under the name of the field on the wire, and one for each header that no field means, under
its own name. There are no other members, and no value of a header is missing. -/
theorem headers_extracted_once (parsers : BodyParsers) (r : Request) (model : Model Schema) (d : Decisions)
    (lower : r.headers.InLowerCase) :
    ∃ members, (Component.headers.extract parsers r (.object model)).run.run d = (.ok (.object members), d) ∧
      Json.KeysAscending members ∧
      (∀ key value, members.lookup key = some value ↔
        ∃ name ∈ r.headers.names, value = r.headers.joined name ∧
          ((∃ e ∈ model.fields, e.2.wireName e.1 = key ∧ r.headers.Means key name) ∨
            key = name ∧ ∀ e ∈ model.fields, ¬r.headers.Means (e.2.wireName e.1) name)) ∧
      ∀ e ∈ r.headers.entries, e.2 ∈ r.headers.getAll e.1 ∧
        ∃ key, members.lookup key = some (r.headers.joined e.1) := by
  refine ⟨headerMembers r.headers (.object model), rfl, (headerMembers_parts lower model).1,
    fun key value => lookup_headerMembers lower, fun e he => ?_⟩
  have present : e.1 ∈ r.headers.names := mem_names.mpr (List.mem_map_of_mem he)
  refine ⟨mem_getAll he (lower e.1 present), ?_⟩
  by_cases hmeant : ∃ field ∈ model.fields, r.headers.Means (field.2.wireName field.1) e.1
  · obtain ⟨field, hfield, means⟩ := hmeant
    exact ⟨_, (lookup_headerMembers lower).mpr ⟨e.1, present, rfl, .inl ⟨field, hfield, rfl, means⟩⟩⟩
  · refine ⟨e.1, (lookup_headerMembers lower).mpr ⟨e.1, present, rfl, .inr ⟨rfl, ?_⟩⟩⟩
    exact fun field hfield means => hmeant ⟨field, hfield, means⟩

def signed : Model Schema where
  name := "Signed"
  fields := [("api_key", { schema := .plainString, alias? := some "X-API-Key" }),
    ("x_trace", { schema := .plainString })]

def signedRequest : Request where
  method := "GET"
  uri := .root
  headers := ⟨[("x-api-key", Text.utf8 "secret"), ("accept", Text.utf8 "a/b"), ("x-trace", Text.utf8 "1"),
    ("accept", Text.utf8 "c/d")]⟩
  body := []

theorem signed_request_extracted :
    Request.ofParts "GET" "/"
        [("X-API-Key", "secret"), ("Accept", "a/b"), ("X-Trace", "1"), ("accept", "c/d")] [] =
      .ok signedRequest ∧
    ∃ members, (Component.headers.extract [] signedRequest (.object signed)).run.run {} =
        (.ok (.object members), {}) ∧
      members =
        [("X-API-Key", .string "secret"), ("accept", .string "a/b, c/d"), ("x_trace", .string "1")] ∧
      ∀ e ∈ signedRequest.headers.entries,
        ∃ key, members.lookup key = some (signedRequest.headers.joined e.1) := by
  have hmade : Request.ofParts "GET" "/"
      [("X-API-Key", "secret"), ("Accept", "a/b"), ("X-Trace", "1"), ("accept", "c/d")] [] =
        .ok signedRequest := by
    with_unfolding_all rfl
  have hrun : (Component.headers.extract [] signedRequest (.object signed)).run.run {} = (.ok (.object
      [("X-API-Key", .string "secret"), ("accept", .string "a/b, c/d"), ("x_trace", .string "1")]), {}) := by
    with_unfolding_all rfl
  obtain ⟨members, hmembers, -, -, hall⟩ :=
    headers_extracted_once [] signedRequest signed {} (Request.inLowerCase_of_ofParts hmade)
  cases hmembers.symm.trans hrun
  exact ⟨hmade, _, hrun, rfl, fun e he => (hall e he).2⟩

end Component

end Accord
