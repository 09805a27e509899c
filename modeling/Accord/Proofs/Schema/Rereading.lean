import Accord.Proofs.Json.Records
import Accord.Proofs.Schema.Patterns
import Accord.Proofs.Schema.Sameness
import Accord.Proofs.Text
import Accord.Schema.Form

namespace Accord.Schema

def rereadField (s : Schema) (f : Field Schema) : Field Schema :=
  { f with schema := s, fallback := f.fallback.filter fun v => !v.isNull }

mutual

def reread : Schema → Schema
  | array items lo hi => array (reread items) lo hi
  | object ⟨name, fields, forceList, strict, denyUnknown⟩ =>
    object ⟨name, Named.arranged (rereadFields fields), forceList, strict, denyUnknown⟩
  | union variants => union (rereadVariants variants)
  | optional inner => optional (reread inner)
  | conditional mapping => conditional (Named.arranged (rereadMembers mapping))
  | s => s
termination_by structural s => s

def rereadFields : List (String × Field Schema) → List (String × Field Schema)
  | [] => []
  | (name, ⟨s, required, alias?, fallback⟩) :: rest =>
    (name, rereadField (reread s) ⟨s, required, alias?, fallback⟩) :: rereadFields rest
termination_by structural fields => fields

def rereadVariants : List Schema → List Schema
  | [] => []
  | s :: rest => reread s :: rereadVariants rest
termination_by structural ss => ss

def rereadMembers : List (String × Schema) → List (String × Schema)
  | [] => []
  | (key, s) :: rest => (key, reread s) :: rereadMembers rest
termination_by structural ms => ms

end

theorem rereadFields_eq (fields : List (String × Field Schema)) :
    rereadFields fields = fields.map fun e => (e.1, rereadField e.2.schema.reread e.2) := by
  induction fields with
  | nil => rfl
  | cons e rest ih => rw [rereadFields, ih, List.map_cons]

theorem rereadVariants_eq (variants : List Schema) : rereadVariants variants = variants.map reread := by
  induction variants with
  | nil => rfl
  | cons s rest ih => rw [rereadVariants, ih, List.map_cons]

theorem rereadMembers_eq (mapping : List (String × Schema)) :
    rereadMembers mapping = mapping.map fun e => (e.1, e.2.reread) := by
  induction mapping with
  | nil => rfl
  | cons e rest ih => rw [rereadMembers, ih, List.map_cons]

def kindTag : Schema → String
  | string .. => "string"
  | integer .. => "integer"
  | number .. => "number"
  | boolean => "boolean"
  | null => "null"
  | any => "any"
  | literal _ => "literal"
  | array .. => "array"
  | object _ => "object"
  | union _ => "union"
  | optional _ => "optional"
  | conditional _ => "conditional"

def shown (keys : List String) : Option (List String) := if keys.isEmpty then none else some keys

def kindMembers : Schema → List (String × Json)
  | string lo hi pattern =>
    given "min_length" lengthForm lo ++ given "max_length" lengthForm hi ++
      given "pattern" Json.string pattern
  | integer lo hi => given "minimum" integerForm lo ++ given "maximum" integerForm hi
  | number lo hi => given "minimum" boundForm lo ++ given "maximum" boundForm hi
  | boolean | null | any => []
  | literal v => [("value", v)]
  | array items lo hi =>
    ("items", items.toJson) :: given "min_items" lengthForm lo ++ given "max_items" lengthForm hi
  | object model =>
    [("name", .string model.name), ("fields", Json.ofMembers (fieldForms model.fields))] ++
      given "force_list" Json.strings (shown model.forceList) ++
      given "strict" Json.bool model.strict ++ [("deny_unknown", .bool model.denyUnknown)]
  | union variants => [("variants", .array (variantForms variants))]
  | optional inner => [("inner", inner.toJson)]
  | conditional mapping => [("mapping", Json.ofMembers (memberForms mapping))]

theorem toJson_eq (s : Schema) : s.toJson = tagged s.kindTag s.kindMembers := by
  cases s with
  | object model =>
    obtain ⟨name, fields, forceList, strict, denyUnknown⟩ := model
    cases forceList <;> rfl
  | _ => rfl

theorem kindTag_mem (s : Schema) : s.kindTag ∈ tags := by
  cases s <;> simp [kindTag, tags]

theorem keys_given {α : Type} (key : String) (write : α → Json) (a : Option α) :
    ((given key write a).map Prod.fst).Sublist [key] := by
  cases a with
  | none => exact List.nil_sublist _
  | some a => exact List.Sublist.refl _

theorem lookup_given {α : Type} (k key : String) (write : α → Json) (a : Option α) :
    (given key write a).lookup k = if k = key then a.map write else none := by
  cases a with
  | none => split <;> rfl
  | some a => exact Named.lookup_cons_ite k key (write a) []

theorem keys_kindMembers (s : Schema) :
    (s.kindMembers.map Prod.fst).Sublist (tagFields s.kindTag) := by
  cases s with
  | string lo hi pattern =>
    simp only [kindMembers, List.map_append]
    exact ((keys_given _ _ _).append (keys_given _ _ _)).append (keys_given _ _ _)
  | integer lo hi | number lo hi =>
    simp only [kindMembers, List.map_append]
    exact (keys_given _ _ _).append (keys_given _ _ _)
  | array items lo hi =>
    simp only [kindMembers, List.map_append, List.map_cons]
    exact ((keys_given _ _ _).cons_cons "items").append (keys_given _ _ _)
  | object model =>
    simp only [kindMembers, List.map_append, List.map_cons, List.map_nil]
    exact (((List.Sublist.refl ["name", "fields"]).append (keys_given _ _ _)).append
      (keys_given _ _ _)).append (List.Sublist.refl ["deny_unknown"])
  | _ => exact List.Sublist.refl _

theorem tagFields_spec : ∀ tag ∈ tags, (tagFields tag).Nodup ∧ "type" ∉ tagFields tag := by decide

theorem nodup_kindMembers (s : Schema) : (s.kindMembers.map Prod.fst).Nodup :=
  s.keys_kindMembers.nodup (tagFields_spec _ s.kindTag_mem).1

theorem untagged_kindMembers (s : Schema) : "type" ∉ s.kindMembers.map Prod.fst :=
  fun h => (tagFields_spec _ s.kindTag_mem).2 (s.keys_kindMembers.subset h)

theorem splitTag_tagged (nested : Bool) {tag : String} {members : List (String × Json)}
    (known : tag ∈ tags) (distinct : (members.map Prod.fst).Nodup)
    (untagged : "type" ∉ members.map Prod.fst) :
    splitTag nested (tagged tag members) = some (tag, Json.ofMembers members) := by
  have hall : ((("type", Json.string tag) :: members).map Prod.fst).Nodup :=
    List.nodup_cons.mpr ⟨untagged, distinct⟩
  have hothers : ∀ e ∈ members, (e.1 == "type") = false := fun e he =>
    beq_eq_false_iff_ne.mpr fun h => untagged (h ▸ List.mem_map_of_mem he)
  have hperm := Named.arranged_perm (("type", Json.string tag) :: members)
  rw [tagged, Json.ofMembers, Json.sortMembers_eq_arranged hall]
  have htag : (Named.arranged (("type", Json.string tag) :: members)).filter
      (fun e => e.1 == "type") = [("type", .string tag)] := by
    refine List.perm_singleton.mp ((hperm.filter _).trans ?_)
    rw [List.filter_cons_of_pos (by simp),
      List.filter_eq_nil_iff.mpr fun e he => Bool.eq_false_iff.mp (hothers e he)]
  have hrest : (Named.arranged (("type", Json.string tag) :: members)).filter
      (fun e => e.1 != "type") = Json.sortMembers members := by
    rw [Json.sortMembers_eq_arranged distinct]
    refine Named.eq_of_perm_of_ascending ?_ ((Named.arranged_ascending hall).filter _)
      (Named.arranged_ascending distinct)
    refine ((hperm.filter _).trans ?_).trans (Named.arranged_perm members).symm
    rw [List.filter_cons_of_neg (by simp),
      List.filter_eq_self.mpr fun e he => by rw [bne, hothers e he, Bool.not_false]]
  have hread : readTag nested (.string tag) = some tag := if_pos (List.contains_iff_mem.mpr known)
  simp only [splitTag, htag, hrest, hread, Option.map_some, Json.ofMembers]

theorem readNested_toJson (nested : Bool) (fuel : Nat) (s : Schema) :
    readNested nested (fuel + 1) s.toJson =
      readTagged (readNested true fuel) s.kindTag (Json.ofMembers s.kindMembers) := by
  rw [readNested, toJson_eq, splitTag_tagged nested s.kindTag_mem s.nodup_kindMembers
    s.untagged_kindMembers]
  rfl

theorem optional?_map {α : Type} {read : Json → Option α} {write : α → Json} {a : Option α}
    (h : ∀ x, a = some x → write x ≠ .null ∧ read (write x) = some x) :
    Json.optional? read (a.map write) = some a := by
  cases a with
  | none => rfl
  | some x =>
    obtain ⟨hnull, hread⟩ := h x rfl
    rw [Option.map_some, Json.optional?, hread, Option.map_some]
    exact hnull

theorem optional?_lengthForm (n : Option UInt64) :
    Json.optional? Json.uint64? (n.map lengthForm) = some n := by
  refine optional?_map fun x _ => ⟨Json.noConfusion, ?_⟩
  have hlimit : unsignedLimit = 2 ^ 64 := by decide +kernel
  have hrange : (0 : Int) ≤ x.toNat ∧ (x.toNat : Int) < unsignedLimit := by
    have hlt := x.toNat_lt
    omega
  rw [lengthForm, Json.uint64?, if_pos hrange, Int.toNat_natCast, UInt64.ofNat_toNat]

theorem optional?_integerForm (n : Option Int64) :
    Json.optional? readInteger (n.map integerForm) = some n := by
  refine optional?_map fun x _ => ⟨Json.noConfusion, ?_⟩
  have hlimit : signedLimit = 2 ^ 63 := by decide +kernel
  have hrange : -(signedLimit : Int) ≤ x.toInt ∧ x.toInt < signedLimit := by
    have hleast := x.le_toInt
    have hmost := x.toInt_lt
    omega
  rw [integerForm, readInteger, Json.int64?, if_pos hrange, Option.map_some, Int64.ofInt_toInt]

theorem optional?_boundForm {bound : Option Double} (finite : ∀ x, bound = some x → ∃ y, x = .finite y) :
    Json.optional? readBound (bound.map boundForm) = some bound := by
  refine optional?_map fun x hx => ?_
  obtain ⟨y, rfl⟩ := finite x hx
  exact ⟨Json.noConfusion, rfl⟩

theorem optional?_string (s : Option String) :
    Json.optional? Json.string? (s.map Json.string) = some s :=
  optional?_map fun _ _ => ⟨Json.noConfusion, rfl⟩

theorem optional?_bool (b : Option Bool) : Json.optional? Json.bool? (b.map Json.bool) = some b :=
  optional?_map fun _ _ => ⟨Json.noConfusion, rfl⟩

theorem optional?_pattern {pattern : Option String}
    (h : ∀ source, pattern = some source → ∃ e, Pattern.read source = .ok e) :
    Json.optional? readPattern (pattern.map Json.string) = some pattern := by
  refine optional?_map fun source hsource => ⟨Json.noConfusion, ?_⟩
  obtain ⟨e, he⟩ := h source hsource
  have hcompiles : Pattern.compiles source = true := by rw [Pattern.compiles, he]; rfl
  simp [readPattern, Json.string?, hcompiles]

theorem optional?_fallback {fallback : Option Json}
    (normal : ∀ v, fallback = some v → v.normalize = v) :
    Json.optional? (fun v => some v.normalize) (fallback.map id) =
      some (fallback.filter fun v => !v.isNull) := by
  cases fallback with
  | none => rfl
  | some v =>
    have hv := normal v rfl
    cases v with
    | null => rfl
    | _ =>
      rw [Option.map_some, id, Json.optional?, hv]
      · rfl
      · exact Json.noConfusion

/-- Names are told apart, keys that always hold lists make a set, and values are in normal form. -/
def OwnPartsFormed : Schema → Prop
  | literal v => v.normalize = v
  | object model => (model.fields.map Prod.fst).Nodup ∧ model.forceList.Pairwise (· < ·) ∧
      ∀ e ∈ model.fields, ∀ v, e.2.fallback = some v → v.normalize = v
  | conditional mapping => (mapping.map Prod.fst).Nodup
  | _ => True

/-- What the types of its parts guarantee of a schema, at every depth. -/
def Formed (s : Schema) : Prop := Everywhere OwnPartsFormed s

theorem Formed.namesApart {s : Schema} (h : Formed s) : NamesApart s := by
  intro t ht
  have hown := h t ht
  cases t with
  | object model => exact hown.1
  | conditional mapping => exact hown
  | _ => trivial

def OwnBoundsFinite : Schema → Prop
  | number lo hi => (∀ x, lo = some x → ∃ y, x = .finite y) ∧ ∀ x, hi = some x → ∃ y, x = .finite y
  | _ => True

/-- Every bound of a number, at any depth, is finite. -/
def BoundsFinite (s : Schema) : Prop := Everywhere OwnBoundsFinite s

theorem BoundsFinite.ordered {s : Schema} (h : BoundsFinite s) : BoundsOrdered s := by
  intro t ht
  have hown := h t ht
  cases t with
  | number lo hi =>
    refine ⟨fun hlo => ?_, fun hhi => ?_⟩
    · obtain ⟨y, hy⟩ := hown.1 _ hlo
      cases hy
    · obtain ⟨y, hy⟩ := hown.2 _ hhi
      cases hy
  | _ => trivial

theorem mapM_eq_some_map {α β : Type} {f : α → Option β} {g : α → β} {l : List α}
    (h : ∀ a ∈ l, f a = some (g a)) : l.mapM f = some (l.map g) := by
  induction l with
  | nil => rfl
  | cons a rest ih =>
    obtain ⟨ha, hrest⟩ := List.forall_mem_cons.mp h
    rw [List.mapM_cons, ha, ih hrest]
    rfl

theorem strings?_strings (texts : List String) : (Json.strings texts).strings? = some texts := by
  have h : (texts.map Json.string).mapM Json.string? = some ((texts.map Json.string).map
      fun v => (v.string?).getD "") := by
    refine mapM_eq_some_map fun v hv => ?_
    obtain ⟨text, -, rfl⟩ := List.mem_map.mp hv
    rfl
  change (texts.map Json.string).mapM Json.string? = some texts
  rw [h, List.map_map]
  exact congrArg some (List.map_id texts)

theorem orDefault?_shown {keys : List String} (ascending : keys.Pairwise (· < ·)) :
    Json.orDefault? [] (fun v => v.strings?.map Text.sortedSet) ((shown keys).map Json.strings) =
      some keys := by
  cases keys with
  | nil => rfl
  | cons key rest =>
    change (Json.strings (key :: rest)).strings?.map Text.sortedSet = _
    rw [strings?_strings, Option.map_some, Text.sortedSet_eq_self ascending]

theorem readNamed_ofMembers {α β : Type} {read : Json → Option β} (write : α → Json)
    (value : α → β) {entries : List (String × α)} (distinct : (entries.map Prod.fst).Nodup)
    (h : ∀ e ∈ entries, read (write e.2) = some (value e.2)) :
    readNamed read (Json.ofMembers (entries.map fun e => (e.1, write e.2))) =
      some (Named.arranged (entries.map fun e => (e.1, value e.2))) := by
  have hkeys : ((entries.map fun e => (e.1, write e.2)).map Prod.fst).Nodup := by
    rw [List.map_map]
    exact distinct
  have hmembers : Json.sortMembers (entries.map fun e => (e.1, write e.2)) =
      (Named.arranged entries).map fun e => (e.1, write e.2) := by
    rw [Json.sortMembers_eq_arranged hkeys, Named.arranged_map]
  have hread : ((Named.arranged entries).map fun e => (e.1, write e.2)).mapM
      (fun e => (read e.2).map fun a => (e.1, a)) =
      some ((Named.arranged entries).map fun e => (e.1, value e.2)) := by
    rw [List.mapM_map]
    refine mapM_eq_some_map fun e he => ?_
    have hentry := h e ((Named.arranged_perm entries).mem_iff.mp he)
    change (read (write e.2)).map _ = _
    rw [hentry]
    rfl
  have hnames : (((Named.arranged entries).map fun e : String × α => (e.1, value e.2)).map
      Prod.fst).Nodup := by
    rw [List.map_map]
    exact Named.nodup_names_arranged distinct
  have hcollect : readNamed read (Json.ofMembers (entries.map fun e => (e.1, write e.2))) =
      (((Named.arranged entries).map fun e => (e.1, write e.2)).mapM
        fun e => (read e.2).map fun a => (e.1, a)).map Named.ofList := by
    rw [readNamed, Json.ofMembers, hmembers]
    exact Option.map_eq_bind.symm
  rw [hcollect, hread, Option.map_some, Named.ofList_eq_self hnames, Named.arranged_map]

def fieldMembers (f : Field Schema) : List (String × Json) :=
  [("schema", f.schema.toJson), ("required", .bool f.required)] ++
    given "alias" Json.string f.alias? ++ given "default" id f.fallback

theorem fieldForms_eq (fields : List (String × Field Schema)) :
    fieldForms fields = fields.map fun e => (e.1, Json.ofMembers (fieldMembers e.2)) := by
  induction fields with
  | nil => rfl
  | cons e rest ih =>
    rw [fieldForms, ih, List.map_cons]
    rfl

theorem variantForms_eq (variants : List Schema) : variantForms variants = variants.map toJson := by
  induction variants with
  | nil => rfl
  | cons s rest ih => rw [variantForms, ih, List.map_cons]

theorem memberForms_eq (mapping : List (String × Schema)) :
    memberForms mapping = mapping.map fun e => (e.1, e.2.toJson) := by
  induction mapping with
  | nil => rfl
  | cons e rest ih => rw [memberForms, ih, List.map_cons]

theorem nodup_fieldMembers (f : Field Schema) : ((fieldMembers f).map Prod.fst).Nodup := by
  have hsublist : ((fieldMembers f).map Prod.fst).Sublist
      ["schema", "required", "alias", "default"] := by
    simp only [fieldMembers, List.map_append, List.map_cons, List.map_nil]
    exact ((List.Sublist.refl ["schema", "required"]).append (keys_given _ _ _)).append
      (keys_given _ _ _)
  exact hsublist.nodup (by decide)

theorem readField_fieldMembers {read : Json → Option Schema} {f : Field Schema} {s : Schema}
    (hread : read f.schema.toJson = some s)
    (normal : ∀ v, f.fallback = some v → v.normalize = v) :
    readField read (Json.ofMembers (fieldMembers f)) = some (rereadField s f) := by
  obtain ⟨fields, hrecord, hlookup⟩ := Json.record?_ofMembers
    ["schema", "required", "alias", "default"] (nodup_fieldMembers f)
  have hschema : fields.lookup "schema" = some f.schema.toJson :=
    (hlookup _ (by simp)).trans (by simp [fieldMembers])
  have hrequired : fields.lookup "required" = some (.bool f.required) :=
    (hlookup _ (by simp)).trans (by simp [fieldMembers, Named.lookup_cons_ite])
  have halias : fields.lookup "alias" = f.alias?.map Json.string :=
    (hlookup _ (by simp)).trans (by
      simp [fieldMembers, List.lookup_append, Named.lookup_cons_ite, lookup_given])
  have hfallback : fields.lookup "default" = f.fallback.map id :=
    (hlookup _ (by simp)).trans (by
      simp [fieldMembers, List.lookup_append, Named.lookup_cons_ite, lookup_given])
  simp only [readField, hrecord, hschema, hrequired, halias, hfallback, hread, Option.bind_eq_bind,
    Option.bind_some, optional?_string, optional?_fallback normal, Json.orDefault?, Json.bool?]
  rfl

theorem depth_lt_of_mem_kindMembers {s : Schema} {e : String × Json} (h : e ∈ s.kindMembers) :
    e.2.depth < s.toJson.depth := by
  rw [toJson_eq]
  exact Json.depth_lt_of_mem_members
    (List.nodup_cons.mpr ⟨s.untagged_kindMembers, s.nodup_kindMembers⟩) (List.mem_cons_of_mem _ h)

theorem depth_toJson_lt {s t : Schema} (formed : OwnPartsFormed s) (h : t ∈ s.parts) :
    t.toJson.depth < s.toJson.depth := by
  cases s with
  | array items lo hi =>
    obtain rfl := List.mem_singleton.mp h
    exact depth_lt_of_mem_kindMembers (e := ("items", _)) (by simp [kindMembers])
  | optional inner =>
    obtain rfl := List.mem_singleton.mp h
    exact depth_lt_of_mem_kindMembers (e := ("inner", _)) (by simp [kindMembers])
  | union variants =>
    have hitems : t.toJson ∈ variantForms variants := by
      rw [variantForms_eq]
      exact List.mem_map_of_mem h
    exact (Json.depth_lt_of_mem_items hitems).trans
      (depth_lt_of_mem_kindMembers (e := ("variants", _)) (by simp [kindMembers]))
  | conditional mapping =>
    obtain ⟨e, he, rfl⟩ := List.mem_map.mp h
    have hmember : (e.1, e.2.toJson) ∈ memberForms mapping := by
      rw [memberForms_eq]
      exact List.mem_map.mpr ⟨e, he, rfl⟩
    have hkeys : ((memberForms mapping).map Prod.fst).Nodup := by
      rw [memberForms_eq, List.map_map]
      exact formed
    exact (Json.depth_lt_of_mem_members hkeys hmember).trans
      (depth_lt_of_mem_kindMembers (e := ("mapping", Json.ofMembers (memberForms mapping)))
        List.mem_cons_self)
  | object model =>
    obtain ⟨e, he, rfl⟩ := List.mem_map.mp h
    have hmember : (e.1, Json.ofMembers (fieldMembers e.2)) ∈ fieldForms model.fields := by
      rw [fieldForms_eq]
      exact List.mem_map.mpr ⟨e, he, rfl⟩
    have hkeys : ((fieldForms model.fields).map Prod.fst).Nodup := by
      rw [fieldForms_eq, List.map_map]
      exact formed.1
    have hschema := Json.depth_lt_of_mem_members (nodup_fieldMembers e.2)
      (e := ("schema", e.2.schema.toJson)) (by simp [fieldMembers])
    exact hschema.trans ((Json.depth_lt_of_mem_members hkeys hmember).trans
      (depth_lt_of_mem_kindMembers (e := ("fields", Json.ofMembers (fieldForms model.fields)))
        (List.mem_cons_of_mem _ List.mem_cons_self)))
  | _ => cases h

section Kinds

variable {read : Json → Option Schema} {fields : Named Json}

theorem readString_kindMembers {lo hi : Option UInt64} {pattern : Option String}
    (compiles : ∀ source, pattern = some source → ∃ e, Pattern.read source = .ok e)
    (hlookup : ∀ k ∈ ["min_length", "max_length", "pattern"],
      fields.lookup k = (string lo hi pattern).kindMembers.lookup k) :
    readString fields = some (string lo hi pattern) := by
  obtain ⟨hlo, hhi, hpattern⟩ : fields.lookup "min_length" = lo.map lengthForm ∧
      fields.lookup "max_length" = hi.map lengthForm ∧
      fields.lookup "pattern" = pattern.map Json.string := by
    simpa [kindMembers, List.lookup_append, lookup_given] using hlookup
  rw [readString, hlo, hhi, hpattern, optional?_lengthForm, optional?_lengthForm,
    optional?_pattern compiles]
  rfl

theorem readIntegers_kindMembers {lo hi : Option Int64}
    (hlookup : ∀ k ∈ ["minimum", "maximum"],
      fields.lookup k = (integer lo hi).kindMembers.lookup k) :
    readIntegers fields = some (integer lo hi) := by
  obtain ⟨hlo, hhi⟩ : fields.lookup "minimum" = lo.map integerForm ∧
      fields.lookup "maximum" = hi.map integerForm := by
    simpa [kindMembers, List.lookup_append, lookup_given] using hlookup
  rw [readIntegers, hlo, hhi, optional?_integerForm, optional?_integerForm]
  rfl

theorem readNumbers_kindMembers {lo hi : Option Double} (finite : OwnBoundsFinite (number lo hi))
    (hlookup : ∀ k ∈ ["minimum", "maximum"],
      fields.lookup k = (number lo hi).kindMembers.lookup k) :
    readNumbers fields = some (number lo hi) := by
  obtain ⟨hlo, hhi⟩ : fields.lookup "minimum" = lo.map boundForm ∧
      fields.lookup "maximum" = hi.map boundForm := by
    simpa [kindMembers, List.lookup_append, lookup_given] using hlookup
  rw [readNumbers, hlo, hhi, optional?_boundForm finite.1, optional?_boundForm finite.2]
  rfl

theorem readArray_kindMembers {items items' : Schema} {lo hi : Option UInt64}
    (hread : read items.toJson = some items')
    (hlookup : ∀ k ∈ ["items", "min_items", "max_items"],
      fields.lookup k = (array items lo hi).kindMembers.lookup k) :
    readArray read fields = some (array items' lo hi) := by
  obtain ⟨hitems, hlo, hhi⟩ : fields.lookup "items" = some items.toJson ∧
      fields.lookup "min_items" = lo.map lengthForm ∧
      fields.lookup "max_items" = hi.map lengthForm := by
    simpa [kindMembers, List.lookup_append, lookup_given, Named.lookup_cons_ite] using hlookup
  rw [readArray, hitems, hlo, hhi, optional?_lengthForm, optional?_lengthForm]
  simp only [hread, Option.bind_eq_bind, Option.bind_some]
  rfl

theorem readObject_kindMembers {name : String} {members members' : List (String × Field Schema)}
    {forceList : List String} {strict : Option Bool} {denyUnknown : Bool}
    (ascending : forceList.Pairwise (· < ·))
    (hread : readNamed (readField read) (Json.ofMembers (fieldForms members)) = some members')
    (hlookup : ∀ k ∈ ["name", "fields", "force_list", "strict", "deny_unknown"], fields.lookup k =
      (object ⟨name, members, forceList, strict, denyUnknown⟩).kindMembers.lookup k) :
    readObject read fields = some (object ⟨name, members', forceList, strict, denyUnknown⟩) := by
  obtain ⟨hname, hfields, hforced, hstrict, hdeny⟩ :
      fields.lookup "name" = some (.string name) ∧
      fields.lookup "fields" = some (Json.ofMembers (fieldForms members)) ∧
      fields.lookup "force_list" = (shown forceList).map Json.strings ∧
      fields.lookup "strict" = strict.map Json.bool ∧
      fields.lookup "deny_unknown" = some (.bool denyUnknown) := by
    simpa [kindMembers, List.lookup_append, lookup_given, Named.lookup_cons_ite] using hlookup
  have hrequired : ∀ {α : Type} (default : α) (read : Json → Option α) (v : Json),
      Json.orDefault? default read (some v) = read v := fun _ _ _ => rfl
  rw [readObject, hname, hfields, hforced, hstrict, hdeny, orDefault?_shown ascending, hrequired,
    hrequired, hread, optional?_bool]
  rfl

theorem readTagged_of_record {tag : String} {content : Json}
    (h : content.record? (tagFields tag) = some fields) :
    readTagged read tag content = readKind read tag fields := by
  rw [readTagged, h, Option.bind_some]

theorem readTagged_kindMembers {s : Schema} (formed : OwnPartsFormed s)
    (compiles : OwnPatternCompiles s) (finite : OwnBoundsFinite s)
    (hparts : ∀ t ∈ s.parts, read t.toJson = some t.reread) :
    readTagged read s.kindTag (Json.ofMembers s.kindMembers) = some s.reread := by
  obtain ⟨fields, hrecord, hlookup⟩ :=
    Json.record?_ofMembers (tagFields s.kindTag) s.nodup_kindMembers
  refine (readTagged_of_record hrecord).trans ?_
  cases s with
  | string lo hi pattern =>
    refine readString_kindMembers ?_ hlookup
    rintro source rfl
    exact compiles
  | integer lo hi => exact readIntegers_kindMembers hlookup
  | number lo hi => exact readNumbers_kindMembers finite hlookup
  | boolean | null | any => rfl
  | literal v =>
    have hvalue : fields.lookup "value" = some v := hlookup "value" List.mem_cons_self
    change (fields.lookup "value").bind (fun v => some (literal v.normalize)) = some (literal v)
    rw [hvalue, Option.bind_some, show v.normalize = v from formed]
  | array items lo hi => exact readArray_kindMembers (hparts items List.mem_cons_self) hlookup
  | object model =>
    obtain ⟨name, members, forceList, strict, denyUnknown⟩ := model
    obtain ⟨distinct, ascending, normal⟩ := formed
    refine readObject_kindMembers ascending ?_ hlookup
    rw [fieldForms_eq, rereadFields_eq]
    exact readNamed_ofMembers (fun f => Json.ofMembers (fieldMembers f))
      (fun f => rereadField f.schema.reread f) distinct fun e he =>
        readField_fieldMembers (hparts _ (List.mem_map.mpr ⟨e, he, rfl⟩)) (normal e he)
  | union variants =>
    have hvariants : fields.lookup "variants" = some (.array (variantForms variants)) :=
      hlookup "variants" List.mem_cons_self
    change (fields.lookup "variants").bind (fun v => v.items?.bind fun items =>
      (items.mapM read).bind fun variants => some (union variants)) = some (union _)
    have hread : (variantForms variants).mapM read = some (rereadVariants variants) := by
      rw [variantForms_eq, List.mapM_map, rereadVariants_eq]
      exact mapM_eq_some_map hparts
    rw [hvariants, Option.bind_some, Json.items?, Option.bind_some, hread, Option.bind_some]
  | optional inner =>
    have hinner : fields.lookup "inner" = some inner.toJson := hlookup "inner" List.mem_cons_self
    change (fields.lookup "inner").bind (fun v => (read v).bind fun inner => some (optional inner)) =
      some (optional inner.reread)
    rw [hinner, Option.bind_some, hparts inner List.mem_cons_self, Option.bind_some]
  | conditional mapping =>
    have hmapping : fields.lookup "mapping" = some (Json.ofMembers (memberForms mapping)) :=
      hlookup "mapping" List.mem_cons_self
    have hread : readNamed read (Json.ofMembers (memberForms mapping)) =
        some (Named.arranged (rereadMembers mapping)) := by
      rw [memberForms_eq, rereadMembers_eq]
      exact readNamed_ofMembers toJson reread formed fun e he => hparts _ (List.mem_map_of_mem he)
    change (fields.lookup "mapping").bind (fun v => (readNamed read v).bind fun mapping =>
      some (conditional mapping)) = some (conditional _)
    rw [hmapping, Option.bind_some, hread, Option.bind_some]

end Kinds

/-- A schema as it can be made is read back from its form, with enough fuel for its depth. -/
theorem readNested_form {s : Schema} (formed : Formed s) (compile : PatternsCompile s)
    (finite : BoundsFinite s) (nested : Bool) {fuel : Nat} (enough : s.toJson.depth ≤ fuel) :
    readNested nested fuel s.toJson = some s.reread := by
  induction s using partsInduction generalizing nested fuel with
  | step s ih =>
  have hpositive : 0 < s.toJson.depth := by
    rw [toJson_eq, tagged, Json.ofMembers, Json.depth]
    exact Nat.succ_pos _
  obtain ⟨rest, rfl⟩ : ∃ rest, fuel = rest + 1 := ⟨fuel - 1, by omega⟩
  rw [readNested_toJson]
  refine readTagged_kindMembers formed.here compile.here finite.here fun t ht => ?_
  -- The form of a part is less deep than that of the whole, so one step less is enough for it.
  have hlt := depth_toJson_lt formed.here ht
  exact ih t ht (formed.of_mem_parts ht) (compile.of_mem_parts ht) (finite.of_mem_parts ht) true
    (by omega)

theorem ofJson?_toJson {s : Schema} (formed : Formed s) (compile : PatternsCompile s)
    (finite : BoundsFinite s) : ofJson? s.toJson = some s.reread :=
  readNested_form formed compile finite false (Nat.le_refl _)

end Accord.Schema
