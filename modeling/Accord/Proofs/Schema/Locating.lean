import Accord.Proofs.Schema.FixedPoint
import Accord.Proofs.Schema.Refusals

namespace Accord

namespace Json

variable {v u : Json} {step : Step} {rest : List Step} {kind : String}

def part? : Json → Step → Option Json
  | object members, .key name => members.lookup name
  | array items, .index i => items[i]?
  | _, _ => none

def at? (v : Json) (steps : List Step) : Option Json := steps.foldlM part? v

/-- The last step is a key that the object before it does not have. -/
def Lacks (v : Json) (steps : List Step) : Prop :=
  ∃ before name members, steps = before ++ [.key name] ∧ v.at? before = some (.object members) ∧
    members.lookup name = none

/-- The steps lead to a value, or, if the error is that it is missing, to where it should be. -/
def PointsAt (v : Json) (kind : String) (steps : List Step) : Prop :=
  if kind = "missing" then v.Lacks steps else (v.at? steps).isSome

theorem at?_cons (v : Json) (step : Step) (rest : List Step) :
    v.at? (step :: rest) = (v.part? step).bind fun u => u.at? rest := List.foldlM_cons

theorem at?_singleton (v : Json) (step : Step) : v.at? [step] = v.part? step := by
  rw [at?_cons]
  exact Option.bind_fun_some _

theorem lacks_cons (h : v.part? step = some u) : v.Lacks (step :: rest) ↔ u.Lacks rest := by
  constructor
  · rintro ⟨before, name, members, hsteps, hobject, habsent⟩
    cases before with
    | nil =>
      cases hsteps
      cases hobject
      cases h.symm.trans habsent
    | cons first before =>
      obtain ⟨rfl, rfl⟩ := List.cons.inj hsteps
      rw [at?_cons, h] at hobject
      exact ⟨before, name, members, rfl, hobject, habsent⟩
  · rintro ⟨before, name, members, rfl, hobject, habsent⟩
    refine ⟨step :: before, name, members, rfl, ?_, habsent⟩
    rw [at?_cons, h]
    exact hobject

theorem pointsAt_cons (h : v.part? step = some u) :
    v.PointsAt kind (step :: rest) ↔ u.PointsAt kind rest := by
  rw [PointsAt, PointsAt, lacks_cons h, at?_cons, h, Option.bind_some]

theorem not_pointsAt_cons (h : v.part? step = none) (hrest : kind = "missing" → rest ≠ []) :
    ¬v.PointsAt kind (step :: rest) := by
  unfold PointsAt
  split
  · next hmissing =>
    rintro ⟨before, name, members, hsteps, hobject, -⟩
    cases before with
    | nil => exact hrest hmissing (List.cons.inj hsteps).2
    | cons first before =>
      obtain ⟨rfl, -⟩ := List.cons.inj hsteps
      rw [at?_cons, h] at hobject
      cases hobject
  · rw [at?_cons, h]
    exact Bool.false_ne_true

end Json

def Field.readKey {σ : Type} (f : Field σ) (name : String) (members : List (String × Json)) : String :=
  if (members.lookup (f.wireName name)).isSome then f.wireName name else name

section

variable {σ : Type} {f : Field σ} {name : String} {members : List (String × Json)}

theorem Schema.memberFor_eq (f : Field σ) (name : String) (members : List (String × Json)) :
    memberFor (f.wireName name) name members = members.lookup (f.readKey name members) := by
  rw [memberFor, Field.readKey]
  cases h : members.lookup (f.wireName name) with
  | some v => rw [if_pos (Option.isSome_some), h]
  | none => rfl

theorem Field.lookup_wireName_of_ne (h : f.readKey name members ≠ f.wireName name) :
    members.lookup (f.wireName name) = none := by
  rw [Field.readKey] at h
  split at h
  · exact absurd rfl h
  · next hnone => exact Option.not_isSome_iff_eq_none.mp hnone

theorem Field.lookup_wireName_of_absent (h : members.lookup (f.readKey name members) = none) :
    members.lookup (f.wireName name) = none := by
  by_cases hkey : f.readKey name members = f.wireName name
  · rwa [hkey] at h
  · exact lookup_wireName_of_ne hkey

end

namespace Schema

variable {s : Schema} {v : Json} {mode : Mode} {d : Detail} {read : List Step} {about : Option Json}

def ownComplaints (mode : Mode) : Schema → Json → List Complaint
  | array _ lo hi, .array vs => lengthComplaints lo hi vs.length
  | array _ _ _, _ => [⟨"list_type", "Input should be a valid list"⟩]
  | object _, .object _ => []
  | object model, _ =>
    [⟨"model_type", "Input should be a valid dictionary or instance of " ++ model.name⟩]
  | s, v =>
    match leafVerdict? mode v s with
    | some (.error told) => told
    | _ => []

def missingAt (wire : String) : Detail := ⟨"Field required", some [.key wire], "missing"⟩

def unknownAt (key : String) : Detail :=
  ⟨"Extra inputs are not permitted", some [.key key], "extra_forbidden"⟩

/-- An error that a check tells, with the steps by which the value that it is about was read, and with this value,
unless it is missing. -/
inductive Told : Mode → Schema → Json → List Step → Option Json → Detail → Prop
  | own {mode : Mode} {s : Schema} {v : Json} {c : Complaint} (hc : c ∈ ownComplaints mode s v) :
      Told mode s v [] (some v) (c.atPath [])
  | inside {mode : Mode} {inner : Schema} {v : Json} {read : List Step} {about : Option Json} {d : Detail}
      (hsome : v.isNull = false) (told : Told mode inner v read about d) :
      Told mode (.optional inner) v read about d
  | item {mode : Mode} {items : Schema} {lo hi : Option UInt64} {vs : List Json} {i : Nat} {u : Json}
      {read : List Step} {about : Option Json} {d : Detail} (hitem : vs[i]? = some u)
      (told : Told mode items u read about d) :
      Told mode (.array items lo hi) (.array vs) (.index i :: read) about (d.under [.index i])
  | field {mode : Mode} {model : Model Schema} {members : List (String × Json)} {e : String × Field Schema}
      {u : Json} {read : List Step} {about : Option Json} {d : Detail} (hfield : e ∈ model.fields)
      (hmember : members.lookup (e.2.readKey e.1 members) = some u)
      (told : Told (mode.inside model.strict) e.2.schema u read about d) :
      Told mode (.object model) (.object members) (.key (e.2.readKey e.1 members) :: read) about
        (d.under [.key (e.2.wireName e.1)])
  | missing {mode : Mode} {model : Model Schema} {members : List (String × Json)} {e : String × Field Schema}
      (hfield : e ∈ model.fields) (habsent : members.lookup (e.2.readKey e.1 members) = none)
      (hneeded : e.2.fallback = none ∧ e.2.required = true) :
      Told mode (.object model) (.object members) [.key (e.2.wireName e.1)] none
        (missingAt (e.2.wireName e.1))
  | unknown {mode : Mode} {model : Model Schema} {members : List (String × Json)} {key : String} {u : Json}
      (hrefused : model.denyUnknown = true ∧ findField? key model = none)
      (hmember : members.lookup key = some u) :
      Told mode (.object model) (.object members) [.key key] (some u) (unknownAt key)

theorem mem_itemDetails {o : Json → Checked Json} {vs : List Json} :
    d ∈ itemDetails o 0 vs ↔ ∃ i u, vs[i]? = some u ∧ ∃ d' ∈ (o u).2, d'.under [.index i] = d := by
  rw [itemDetails, List.mem_flatMap]
  constructor
  · rintro ⟨⟨u, i⟩, hitem, hd⟩
    exact ⟨i, u, List.mem_zipIdx_iff_getElem?.mp hitem, List.mem_map.mp hd⟩
  · rintro ⟨i, u, hitem, hd⟩
    exact ⟨(u, i), List.mem_zipIdx_iff_getElem?.mpr hitem, List.mem_map.mpr hd⟩

theorem mem_fieldOutcome {members : List (String × Json)} {name : String} {f : Field Schema} :
    d ∈ (fieldOutcome members mode name f).2 ↔
      (∃ u, members.lookup (f.readKey name members) = some u ∧
        ∃ d' ∈ (f.schema.outcome u mode).2, d'.under [.key (f.wireName name)] = d) ∨
      (members.lookup (f.readKey name members) = none ∧ (f.fallback = none ∧ f.required = true) ∧
        missingAt (f.wireName name) = d) := by
  simp only [fieldOutcome, memberFor_eq]
  cases members.lookup (f.readKey name members) with
  | some u => simp [placed]
  | none => cases f.fallback <;> cases f.required <;> simp [missingAt, eq_comm]

theorem mem_unknownMembers {model : Model Schema} {members : List (String × Json)} :
    d ∈ unknownMembers model members [] ↔
      ∃ key u, findField? key model = none ∧ members.lookup key = some u ∧ unknownAt key = d := by
  rw [unknownMembers, List.mem_map]
  constructor
  · rintro ⟨⟨key, w⟩, hmem, rfl⟩
    obtain ⟨hmem, hfresh⟩ := List.mem_filter.mp hmem
    have hkey : members.lookup key ≠ none := fun hnone =>
      Named.lookup_eq_none_iff_not_mem.mp hnone (List.mem_map_of_mem hmem)
    obtain ⟨u, hmember⟩ := Option.ne_none_iff_exists'.mp hkey
    exact ⟨key, u, Option.isNone_iff_eq_none.mp hfresh, hmember, rfl⟩
  · rintro ⟨key, u, hfresh, hmember, rfl⟩
    refine ⟨(key, u), List.mem_filter.mpr ⟨Named.mem_of_lookup hmember, ?_⟩, rfl⟩
    exact Option.isNone_iff_eq_none.mpr hfresh

theorem mem_objectDetails {model : Model Schema} {members : List (String × Json)} :
    d ∈ objectDetails model members mode ↔
      (∃ e ∈ model.fields, d ∈ (fieldOutcome members (mode.inside model.strict) e.1 e.2).2) ∨
        ∃ key u, (model.denyUnknown = true ∧ findField? key model = none) ∧ members.lookup key = some u ∧
          unknownAt key = d := by
  rw [objectDetails, List.mem_append, fieldDetails, List.mem_flatMap]
  refine or_congr_right ?_
  split
  · next hdeny => simp only [mem_unknownMembers, hdeny, true_and]
  · next hdeny => simp [hdeny]

theorem details_leaf {verdict : Verdict} (h : leafVerdict? mode v s = some verdict) :
    (s.outcome v mode).2 = (ownComplaints mode s v).map (Complaint.atPath []) := by
  have hown : ownComplaints mode s v =
      match leafVerdict? mode v s with
      | some (.error told) => told
      | _ => [] := by
    cases s <;> first | rfl | cases h
  rw [outcome_leaf h, hown, h]
  cases verdict <;> rfl

theorem mem_details_of_own
    (hdetails : (s.outcome v mode).2 = (ownComplaints mode s v).map (Complaint.atPath []))
    (honly : ∀ read about d, Told mode s v read about d → ∃ c ∈ ownComplaints mode s v, c.atPath [] = d) :
    d ∈ (s.outcome v mode).2 ↔ ∃ read about, Told mode s v read about d := by
  rw [hdetails, List.mem_map]
  constructor
  · rintro ⟨c, hc, rfl⟩
    exact ⟨[], some v, .own hc⟩
  · rintro ⟨read, about, told⟩
    exact honly read about d told

theorem exists_told_optional_iff {inner : Schema} :
    (∃ read about, Told mode (.optional inner) v read about d) ↔
      v.isNull = false ∧ ∃ read about, Told mode inner v read about d := by
  constructor
  · rintro ⟨read, about, told⟩
    cases told with
    | own hc => cases hc
    | inside hsome told => exact ⟨hsome, read, about, told⟩
  · rintro ⟨hsome, read, about, told⟩
    exact ⟨read, about, .inside hsome told⟩

theorem exists_told_array_iff {items : Schema} {lo hi : Option UInt64} {vs : List Json} :
    (∃ read about, Told mode (.array items lo hi) (.array vs) read about d) ↔
      (∃ c ∈ lengthComplaints lo hi vs.length, c.atPath [] = d) ∨
        ∃ i u, vs[i]? = some u ∧
          ∃ d', (∃ read about, Told mode items u read about d') ∧ d'.under [.index i] = d := by
  constructor
  · rintro ⟨read, about, told⟩
    cases told with
    | own hc => exact .inl ⟨_, hc, rfl⟩
    | item hu told => exact .inr ⟨_, _, hu, _, ⟨_, _, told⟩, rfl⟩
  · rintro (⟨c, hc, rfl⟩ | ⟨i, u, hu, d, ⟨read, about, told⟩, rfl⟩)
    · exact ⟨_, _, .own hc⟩
    · exact ⟨_, _, .item hu told⟩

theorem exists_told_object_iff {model : Model Schema} {members : List (String × Json)} :
    (∃ read about, Told mode (.object model) (.object members) read about d) ↔
      (∃ e ∈ model.fields,
        (∃ u, members.lookup (e.2.readKey e.1 members) = some u ∧
          ∃ d', (∃ read about, Told (mode.inside model.strict) e.2.schema u read about d') ∧
            d'.under [.key (e.2.wireName e.1)] = d) ∨
        (members.lookup (e.2.readKey e.1 members) = none ∧ (e.2.fallback = none ∧ e.2.required = true) ∧
          missingAt (e.2.wireName e.1) = d)) ∨
      ∃ key u, (model.denyUnknown = true ∧ findField? key model = none) ∧ members.lookup key = some u ∧
        unknownAt key = d := by
  constructor
  · rintro ⟨read, about, told⟩
    cases told with
    | own hc => cases hc
    | field he hu told => exact .inl ⟨_, he, .inl ⟨_, hu, _, ⟨_, _, told⟩, rfl⟩⟩
    | missing he habsent hneeded => exact .inl ⟨_, he, .inr ⟨habsent, hneeded, rfl⟩⟩
    | unknown hrefused hu => exact .inr ⟨_, _, hrefused, hu, rfl⟩
  · rintro (⟨e, he, ⟨u, hu, d, ⟨read, about, told⟩, rfl⟩ | ⟨habsent, hneeded, rfl⟩⟩ |
      ⟨key, u, hrefused, hu, rfl⟩)
    · exact ⟨_, _, .field he hu told⟩
    · exact ⟨_, _, .missing he habsent hneeded⟩
    · exact ⟨_, _, .unknown hrefused hu⟩

theorem mem_details_iff_told (free : ChoiceFree s) :
    d ∈ (s.outcome v mode).2 ↔ ∃ read about, Told mode s v read about d := by
  induction s using partsInduction generalizing v mode d with
  | step s ih =>
  have hparts : ∀ t ∈ s.parts, ∀ v mode d,
      d ∈ (t.outcome v mode).2 ↔ ∃ read about, Told mode t v read about d :=
    fun t ht v mode d => ih t ht (free.of_mem_parts ht)
  cases s with
  | any | null | literal | string | integer | number | boolean =>
    refine mem_details_of_own (details_leaf rfl) fun read about d told => ?_
    cases told with
    | own hc => exact ⟨_, hc, rfl⟩
  | optional inner =>
    rw [outcome_optional, exists_told_optional_iff]
    cases v.isNull with
    | true => exact ⟨fun hd => (nomatch hd), fun ⟨hsome, _⟩ => (nomatch hsome)⟩
    | false =>
      rw [if_neg Bool.false_ne_true, hparts inner List.mem_cons_self]
      exact (and_iff_right rfl).symm
  | array items lo hi =>
    cases v with
    | array vs =>
      rw [outcome_array, exists_told_array_iff]
      simp only [arrayOutcome, List.mem_append, List.mem_map, mem_itemDetails,
        hparts items List.mem_cons_self]
    | _ =>
      refine mem_details_of_own rfl fun read about d told => ?_
      cases told with
      | own hc => exact ⟨_, hc, rfl⟩
  | object model =>
    cases v with
    | object members =>
      rw [outcome_object, objectOutcome, mem_objectDetails, exists_told_object_iff]
      refine or_congr_left (exists_congr fun e => and_congr_right fun he => ?_)
      simp only [mem_fieldOutcome, hparts e.2.schema (List.mem_map_of_mem he)]
    | _ =>
      refine mem_details_of_own rfl fun read about d told => ?_
      cases told with
      | own hc => exact ⟨_, hc, rfl⟩
  | union variants => exact absurd trivial free.here
  | conditional mapping => exact absurd trivial free.here

theorem kind_ne_missing_of_own {c : Complaint} (hc : c ∈ ownComplaints mode s v) : c.kind ≠ "missing" := by
  have hleaf (hc : c ∈ match leafVerdict? mode v s with
      | some (.error told) => told
      | _ => []) : c.kind ≠ "missing" := by
    split at hc
    · next htold => exact (plain_of_leafVerdict htold hc).present
    · cases hc
  cases s with
  | array items lo hi =>
    cases v with
    | array vs =>
      have plain : c.Plain True := plain_of_lengthComplaints hc
      exact plain.present
    | _ =>
      rw [List.mem_singleton.mp hc]
      simp
  | object model =>
    cases v with
    | object members => cases hc
    | _ =>
      rw [List.mem_singleton.mp hc]
      simp
  | _ => exact hleaf hc

structure Located (v : Json) (read : List Step) (about : Option Json) (d : Detail) (reported : List Step) :
    Prop where
  path : d.path = some reported
  value : v.at? read = about
  found : v.PointsAt d.kind read
  astray : v.PointsAt d.kind reported → reported = read
  deep : d.kind = "missing" → reported ≠ []

/-- An error about a part of a value is one about the value, further down. It is led astray if it names a key that
the value does not have. -/
theorem Located.under {u : Json} {step step' : Step} {reported : List Step}
    (h : Located u read about d reported) (hpart : v.part? step = some u)
    (hstep : step' ≠ step → v.part? step' = none) :
    Located v (step :: read) about (d.under [step']) (step' :: reported) where
  path := by rw [Detail.under, h.path]; rfl
  value := by rw [Json.at?_cons, hpart]; exact h.value
  found := (Json.pointsAt_cons hpart).mpr h.found
  astray hpoints := by
    by_cases hsame : step' = step
    · subst hsame
      rw [h.astray ((Json.pointsAt_cons hpart).mp hpoints)]
    · exact absurd hpoints (Json.not_pointsAt_cons (hstep hsame) h.deep)
  deep _ := List.cons_ne_nil _ _

theorem Told.located (told : Told mode s v read about d) :
    ∃ reported, Located v read about d reported := by
  induction told with
  | own hc =>
    have hkind := kind_ne_missing_of_own hc
    refine ⟨[], rfl, rfl, ?_, fun _ => rfl, fun hmissing => absurd hmissing hkind⟩
    rw [Json.PointsAt]
    exact (if_neg hkind).mpr rfl
  | inside _ _ ih => exact ih
  | item hitem _ ih =>
    obtain ⟨reported, hlocated⟩ := ih
    exact ⟨_, hlocated.under hitem fun hne => absurd rfl hne⟩
  | field _ hmember _ ih =>
    obtain ⟨reported, hlocated⟩ := ih
    refine ⟨_, hlocated.under hmember fun hne => ?_⟩
    exact Field.lookup_wireName_of_ne fun hsame => hne (congrArg Step.key hsame.symm)
  | @missing _ _ members _ _ habsent _ =>
    have habsent := Field.lookup_wireName_of_absent habsent
    refine ⟨_, rfl, (Json.at?_singleton ..).trans habsent, ?_, fun _ => rfl, fun _ => List.cons_ne_nil _ _⟩
    exact ⟨[], _, members, rfl, rfl, habsent⟩
  | unknown _ hmember =>
    have hread := (Json.at?_singleton (.object _) (.key _)).trans hmember
    refine ⟨_, rfl, hread, ?_, fun _ => rfl, fun _ => List.cons_ne_nil _ _⟩
    exact Option.isSome_iff_exists.mpr ⟨_, hread⟩

def OwnUnaliased : Schema → Prop
  | object model => ∀ e ∈ model.fields, e.2.alias? = none
  | _ => True

theorem Told.path_of_unaliased (told : Told mode s v read about d)
    (unaliased : Everywhere OwnUnaliased s) : d.path = some read := by
  induction told with
  | own | missing | unknown => rfl
  | inside _ _ ih => exact ih (unaliased.of_mem_parts List.mem_cons_self)
  | item _ _ ih =>
    rw [Detail.under, ih (unaliased.of_mem_parts List.mem_cons_self)]
    rfl
  | @field _ _ members e _ _ _ _ hfield _ _ ih =>
    have hwire : e.2.wireName e.1 = e.1 := by
      rw [Field.wireName, unaliased.here e hfield]
      rfl
    have hkey : e.2.readKey e.1 members = e.1 := by rw [Field.readKey, hwire, ite_self]
    rw [Detail.under, ih (unaliased.of_mem_parts (List.mem_map_of_mem hfield)), hwire, hkey]
    rfl

/-- Where a check without choices fails, every error is about a value that was read at some place in the input, or
about one that is missing from an object there. It is located at a place of this kind if and only if it is located at
the place where it was read, that is, if on the way there no field was read by its own name in place of its alias. -/
theorem located_iff_read_there {strict : Option Bool} {details : List Detail} (free : ChoiceFree s)
    (h : s.validate v strict = .error details) :
    (∀ d, d ∈ details ↔ ∃ read about, Told ⟨strict, false⟩ s v read about d) ∧
    ∀ d read about, Told ⟨strict, false⟩ s v read about d →
      v.at? read = about ∧ v.PointsAt d.kind read ∧
      ((∃ reported, d.path = some reported ∧ v.PointsAt d.kind reported) ↔ d.path = some read) ∧
      (Everywhere OwnUnaliased s → d.path = some read) := by
  have hdetails : (s.outcome v ⟨strict, false⟩).2 = details := by
    rw [validate_eq] at h
    split at h
    · cases h
    · next hout =>
      cases h
      rw [hout]
  refine ⟨fun d => hdetails ▸ mem_details_iff_told free, fun d read about told => ?_⟩
  obtain ⟨reported, hlocated⟩ := told.located
  refine ⟨hlocated.value, hlocated.found, ⟨?_, fun hpath => ⟨read, hpath, hlocated.found⟩⟩,
    told.path_of_unaliased⟩
  rintro ⟨other, hother, hpoints⟩
  cases hlocated.path.symm.trans hother
  rw [hlocated.path, hlocated.astray hpoints]

def sizedLine : Schema :=
  .object { name := "Line", fields := [("size", { schema := plainInteger, alias? := some "n" })] }

def twoLines : Json := .array [.object [("n", .string "x")], .object [("size", .string "x")]]

theorem sizes_located :
    ChoiceFree (listOf sizedLine) ∧
    ∃ details, (listOf sizedLine).validate twoLines none = .error details ∧
      details.map Detail.path = [some [.index 0, .key "n"], some [.index 1, .key "n"]] ∧
      ∀ d ∈ details, ∃ read, twoLines.PointsAt d.kind read ∧
        ((∃ reported, d.path = some reported ∧ twoLines.PointsAt d.kind reported) ↔ d.path = some read) := by
  have free : ChoiceFree (listOf sizedLine) := by
    simp [ChoiceFree, listOf, sizedLine, plainInteger, IsChoice]
  have hrefused : ∃ details, (listOf sizedLine).validate twoLines none = .error details ∧
      details.map Detail.path = [some [.index 0, .key "n"], some [.index 1, .key "n"]] :=
    ⟨_, by with_unfolding_all rfl, rfl⟩
  obtain ⟨details, hdetails, hpaths⟩ := hrefused
  obtain ⟨htold, hlocated⟩ := located_iff_read_there free hdetails
  refine ⟨free, details, hdetails, hpaths, fun d hd => ?_⟩
  obtain ⟨read, about, told⟩ := (htold d).mp hd
  obtain ⟨-, hfound, hpoints, -⟩ := hlocated d read about told
  exact ⟨read, hfound, hpoints⟩

/-- The error about the second line leads nowhere. -/
theorem location_need_not_lead :
    ¬∀ (s : Schema) (v : Json) (strict : Option Bool) (details : List Detail), ChoiceFree s →
      s.validate v strict = .error details →
        ∀ d ∈ details, ∃ reported, d.path = some reported ∧ v.PointsAt d.kind reported := by
  intro hclaim
  have free : ChoiceFree sizedLine := by simp [ChoiceFree, sizedLine, plainInteger, IsChoice]
  have hrefused : sizedLine.validate (.object [("size", .string "x")]) none =
      .error [⟨"Input should be a valid integer, unable to parse string as an integer", some [.key "n"],
        "int_parsing"⟩] := by
    with_unfolding_all rfl
  obtain ⟨reported, hpath, hpoints⟩ := hclaim _ _ _ _ free hrefused _ List.mem_cons_self
  cases hpath
  have hnone : (Json.object [("size", .string "x")]).at? [.key "n"] = none := by with_unfolding_all rfl
  rw [Json.PointsAt, if_neg (by decide), hnone] at hpoints
  cases hpoints

end Schema

end Accord
