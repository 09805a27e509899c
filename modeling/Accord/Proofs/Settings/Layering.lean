import Accord.Proofs.Settings.Setting
import Accord.Proofs.Text
import Accord.Proofs.Toml.Values
import Accord.Settings.Loader
import Mathlib

namespace Accord

open Settings (Fault Reader SectionField)

namespace Settings

variable {σ α : Type} {name : String} {read : Reader α} {get : σ → α} {fields : List (SectionField σ)}
  {field : SectionField σ} {members : List (String × Json)} {v : Json} {s t : σ}

/-- Of these fields, those of a name are read in one way and told by `get`, which the other fields leave alone. -/
inductive Shows (name : String) (read : Reader α) (get : σ → α) : List (SectionField σ) → Prop
  | nil : Shows name read get []
  | own {store : α → σ → σ} {fields : List (SectionField σ)} (told : ∀ a s, get (store a s) = a) :
      Shows name read get fields → Shows name read get (.of name read store :: fields)
  | other {β : Type} {other : String} {readOther : Reader β} {store : β → σ → σ} {fields : List (SectionField σ)}
      (ne : other ≠ name) (kept : ∀ b s, get (store b s) = get s) :
      Shows name read get fields → Shows name read get (.of other readOther store :: fields)

theorem SectionField.put_of_eq_ok {store : α → σ → σ} (h : (SectionField.of name read store).put v s = .ok t) :
    ∃ a, read v = .ok a ∧ t = store a s := by
  change (read v).map (fun a => store a s) = .ok t at h
  cases hread : read v with
  | error e => rw [hread] at h; cases h
  | ok a =>
    rw [hread] at h
    cases h
    exact ⟨a, rfl, rfl⟩

theorem Shows.of_put (shows_ : Shows name read get fields) (hfield : field ∈ fields) (h : field.put v s = .ok t) :
    if field.name = name then read v = .ok (get t) else get t = get s := by
  induction shows_ with
  | nil => cases hfield
  | own told _ ih =>
    rcases List.mem_cons.mp hfield with rfl | hfield
    · obtain ⟨a, hread, rfl⟩ := SectionField.put_of_eq_ok h
      rw [told]
      exact (if_pos rfl).mpr hread
    · exact ih hfield
  | other ne kept _ ih =>
    rcases List.mem_cons.mp hfield with rfl | hfield
    · obtain ⟨b, -, rfl⟩ := SectionField.put_of_eq_ok h
      rw [kept]
      exact (if_neg ne).mpr rfl
    · exact ih hfield

theorem putMembers_cons_eq_ok {key : String} (h : putMembers fields s ((key, v) :: members) = .ok t) :
    ∃ field ∈ fields, ∃ between, field.name = key ∧ field.put v s = .ok between ∧
      putMembers fields between members = .ok t := by
  rw [putMembers, List.foldlM_cons] at h
  dsimp only at h
  split at h
  · next field hfound =>
    cases hput : field.put v s with
    | error e => rw [hput] at h; cases h
    | ok between =>
      rw [hput] at h
      exact ⟨field, List.mem_of_find?_eq_some hfound, between, beq_iff_eq.mp (List.find?_some hfound :), hput, h⟩
  · cases h

/-- A record is told by what the members say of its fields; what they do not say is as before. -/
theorem Shows.of_putMembers (shows_ : Shows name read get fields) (distinct : (members.map Prod.fst).Nodup)
    (h : putMembers fields s members = .ok t) :
    match members.lookup name with
    | some v => read v = .ok (get t)
    | none => get t = get s := by
  induction members generalizing s with
  | nil => cases h; rfl
  | cons e members ih =>
    obtain ⟨key, v⟩ := e
    obtain ⟨hfresh, hrest⟩ := List.nodup_cons.mp distinct
    obtain ⟨field, hfield, between, hname, hput, h⟩ := putMembers_cons_eq_ok h
    have hstep := shows_.of_put hfield hput
    have htail := ih hrest h
    rw [Named.lookup_cons_ite]
    by_cases hkey : name = key
    · subst hkey
      rw [Named.lookup_eq_none_iff_not_mem.mpr hfresh] at htail
      rw [if_pos hname] at hstep
      rw [if_pos rfl]
      exact hstep.trans (congrArg Except.ok htail.symm)
    · rw [if_neg fun he => hkey (he.symm.trans hname)] at hstep
      rw [if_neg hkey, ← hstep]
      exact htail

theorem mem_names_of_putMembers (h : putMembers fields s members = .ok t) {e : String × Json} (he : e ∈ members) :
    e.1 ∈ fields.map SectionField.name := by
  induction members generalizing s with
  | nil => cases he
  | cons first members ih =>
    obtain ⟨key, v⟩ := first
    obtain ⟨field, hfield, between, hname, -, h⟩ := putMembers_cons_eq_ok h
    rcases List.mem_cons.mp he with rfl | he
    · exact List.mem_map.mpr ⟨field, hfield, hname⟩
    · exact ih h he

end Settings

namespace Json

def OfObjects (v : Json) : Prop :=
  ∃ members, v = .object members ∧ ∀ e ∈ members, ∃ inner, e.2 = .object inner

theorem OfObjects.merge {base layer : Json} (hbase : base.OfObjects) (hlayer : layer.OfObjects)
    (orderedBase : base.InOrder) (ordered : layer.InOrder) : (base.merge layer).OfObjects := by
  have hmerged := orderedBase.merge ordered
  obtain ⟨members, rfl, hmembers⟩ := hbase
  obtain ⟨upper, rfl, hupper⟩ := hlayer
  refine ⟨mergeMembers members upper, rfl, fun e he => ?_⟩
  have hfound := (Named.lookup_iff_mem hmerged.distinct).mpr he
  rw [lookup_mergeMembers _ ordered.distinct] at hfound
  split at hfound
  · next v hv =>
    obtain ⟨inner, hinner⟩ := hupper _ (Named.mem_of_lookup hv)
    cases hinner
    cases hknown : members.lookup e.1 with
    | none =>
      rw [hknown] at hfound
      exact ⟨inner, (Option.some.inj hfound).symm⟩
    | some known =>
      obtain ⟨lower, hlower⟩ := hmembers _ (Named.mem_of_lookup hknown)
      cases hlower
      rw [hknown] at hfound
      exact ⟨Json.mergeMembers lower inner, (Option.some.inj hfound).symm⟩
  · exact hmembers _ (Named.mem_of_lookup hfound)

end Json

namespace Setting

open Settings (Shows)

variable {x : Setting} {s t : Settings} {u v base layer : Json}

/-- What a layer says of the setting, if it mentions it. -/
def mentionedIn? (x : Setting) (layer : Json) : Option Json := (layer.get? x.part).bind fun v => v.get? x.key

theorem mentionedIn?_merge (x : Setting) (hbase : base.OfObjects) (hlayer : layer.OfObjects)
    (ordered : layer.InOrder) : x.mentionedIn? (base.merge layer) =
      match x.mentionedIn? layer with
      | some v => some (Json.onTop (x.mentionedIn? base) v)
      | none => x.mentionedIn? base := by
  obtain ⟨members, rfl, hmembers⟩ := hbase
  obtain ⟨upper, rfl, hupper⟩ := hlayer
  rw [Json.merge_objects]
  simp only [mentionedIn?, Json.get?, Json.lookup_mergeMembers _ ordered.distinct]
  cases hpart : upper.lookup x.part with
  | none => rfl
  | some v =>
    obtain ⟨inner, hinner⟩ := hupper _ (Named.mem_of_lookup hpart)
    cases hinner
    have hdistinct := (ordered.of_mem (Named.mem_of_lookup hpart)).distinct
    cases hknown : members.lookup x.part with
    | none =>
      change inner.lookup x.key =
        match inner.lookup x.key with
        | some v => some (Json.onTop none v)
        | none => none
      cases inner.lookup x.key <;> rfl
    | some known =>
      obtain ⟨lower, hlower⟩ := hmembers _ (Named.mem_of_lookup hknown)
      cases hlower
      change (Json.mergeMembers lower inner).lookup x.key = _
      rw [Json.lookup_mergeMembers _ hdistinct]
      rfl

/-- A field of a section holds the setting, and nothing else touches it. -/
inductive Placed (x : Setting) : Prop
  | intro {σ : Type} {title : String} {fields : List (SectionField σ)} {default : σ} (of : Settings → σ)
      (get : σ → x.Value) (told : ∀ s, x.get s = get (of s))
      (section_ : Shows x.part (Settings.readSection title fields default) of Settings.sections)
      (field : Shows x.key x.read get fields)

theorem shows_validation : Shows "validation" Settings.readValidation Settings.validation Settings.sections :=
  .own (fun _ _ => rfl) (.other (by decide) (fun _ _ => rfl) (.other (by decide) (fun _ _ => rfl) .nil))

theorem shows_http : Shows "http" Settings.readHttp Settings.http Settings.sections :=
  .other (by decide) (fun _ _ => rfl) (.own (fun _ _ => rfl) (.other (by decide) (fun _ _ => rfl) .nil))

theorem shows_logging : Shows "logging" Settings.readLogging Settings.logging Settings.sections :=
  .other (by decide) (fun _ _ => rfl) (.other (by decide) (fun _ _ => rfl) (.own (fun _ _ => rfl) .nil))

theorem placed : ∀ x ∈ all, x.Placed := by
  refine forall_mem_all.mpr ⟨.intro _ ValidationSettings.validateResponses (fun _ => rfl) shows_validation ?_,
    .intro _ ValidationSettings.strictRequests (fun _ => rfl) shows_validation ?_,
    .intro _ ValidationSettings.strictResponses (fun _ => rfl) shows_validation ?_,
    .intro _ HttpSettings.treatAsPost (fun _ => rfl) shows_http ?_,
    .intro _ HttpSettings.allowedMethods (fun _ => rfl) shows_http ?_,
    .intro _ LoggingSettings.enabled (fun _ => rfl) shows_logging ?_,
    .intro _ LoggingSettings.level (fun _ => rfl) shows_logging ?_,
    .intro _ LoggingSettings.format (fun _ => rfl) shows_logging ?_,
    .intro _ LoggingSettings.serviceName (fun _ => rfl) shows_logging ?_⟩
  · exact .own (fun _ _ => rfl) (.other (by decide) (fun _ _ => rfl) (.other (by decide) (fun _ _ => rfl) .nil))
  · exact .other (by decide) (fun _ _ => rfl) (.own (fun _ _ => rfl) (.other (by decide) (fun _ _ => rfl) .nil))
  · exact .other (by decide) (fun _ _ => rfl) (.other (by decide) (fun _ _ => rfl) (.own (fun _ _ => rfl) .nil))
  · exact .own (fun _ _ => rfl) (.other (by decide) (fun _ _ => rfl) .nil)
  · exact .other (by decide) (fun _ _ => rfl) (.own (fun _ _ => rfl) .nil)
  · exact .own (fun _ _ => rfl) (.other (by decide) (fun _ _ => rfl)
      (.other (by decide) (fun _ _ => rfl) (.other (by decide) (fun _ _ => rfl) .nil)))
  · exact .other (by decide) (fun _ _ => rfl) (.own (fun _ _ => rfl)
      (.other (by decide) (fun _ _ => rfl) (.other (by decide) (fun _ _ => rfl) .nil)))
  · exact .other (by decide) (fun _ _ => rfl) (.other (by decide) (fun _ _ => rfl)
      (.own (fun _ _ => rfl) (.other (by decide) (fun _ _ => rfl) .nil)))
  · exact .other (by decide) (fun _ _ => rfl) (.other (by decide) (fun _ _ => rfl)
      (.other (by decide) (fun _ _ => rfl) (.own (fun _ _ => rfl) .nil)))

theorem mem_writings_of_ofJson (hx : x ∈ all) (ordered : v.InOrder) (hobjects : v.OfObjects)
    (h : Settings.ofJson v = .ok t) (hu : x.mentionedIn? v = some u) : u ∈ x.writings (x.get t) := by
  obtain ⟨of, get, htold, hsection, hfield⟩ := placed x hx
  obtain ⟨members, rfl, hmembers⟩ := hobjects
  obtain ⟨w, hw, hu⟩ := Option.bind_eq_some_iff.mp hu
  have hmem := Named.mem_of_lookup hw
  obtain ⟨inner, hinner⟩ := hmembers _ hmem
  cases hinner
  have hinner := hsection.of_putMembers ordered.distinct h
  rw [show members.lookup x.part = some (.object inner) from hw] at hinner
  have hread := hfield.of_putMembers (ordered.of_mem hmem).distinct hinner
  rw [show inner.lookup x.key = some u from hu] at hread
  rw [← read_eq_ok_iff hx, htold]
  exact hread

theorem inOrder_toJson (s : Settings) : s.toJson.InOrder := by
  have hstrings : ∀ texts : List String, (Json.strings texts).InOrder := fun texts =>
    .array fun v hv => by
      obtain ⟨text, -, rfl⟩ := List.mem_map.mp hv
      exact .string text
  have hoption : ∀ b : Option Bool, (Json.ofOption Json.bool b).InOrder := fun b => by
    cases b with
    | none => exact .null
    | some b => exact .bool b
  have hkeys : ["allowed_http_methods", "treat_as_post"].Pairwise (· < ·) ∧
      ["enabled", "format", "level", "service_name"].Pairwise (· < ·) ∧
      ["strict_request_validation", "strict_response_validation", "validate_responses"].Pairwise (· < ·) ∧
      ["http", "logging", "validation"].Pairwise (· < ·) := by decide
  obtain ⟨hhttpKeys, hloggingKeys, hvalidationKeys, hparts⟩ := hkeys
  have hhttp : s.http.toJson.InOrder := .object (List.pairwise_map.mp hhttpKeys) (by simp [hstrings])
  have hlogging : s.logging.toJson.InOrder :=
    .object (List.pairwise_map.mp hloggingKeys) (by simp [Json.InOrder.bool, Json.InOrder.string])
  have hvalidation : s.validation.toJson.InOrder :=
    .object (List.pairwise_map.mp hvalidationKeys) (by simp [Json.InOrder.bool, hoption])
  exact .object (List.pairwise_map.mp hparts) (by simp [hhttp, hlogging, hvalidation])

theorem ofObjects_toJson (s : Settings) : s.toJson.OfObjects :=
  ⟨_, rfl, List.forall_mem_cons.mpr ⟨⟨_, rfl⟩, List.forall_mem_cons.mpr ⟨⟨_, rfl⟩,
    List.forall_mem_cons.mpr ⟨⟨_, rfl⟩, fun _ h => absurd h List.not_mem_nil⟩⟩⟩⟩

theorem mentionedIn?_toJson (hx : x ∈ all) (s : Settings) :
    x.mentionedIn? s.toJson = (x.writings (x.get s)).head? := by
  have hall : ∀ x ∈ all, x.mentionedIn? s.toJson = (x.writings (x.get s)).head? :=
    forall_mem_all.mpr ⟨rfl, rfl, rfl, rfl, rfl, rfl, rfl, rfl, rfl⟩
  exact hall x hx

theorem not_object_of_head? : ∀ x ∈ all, ∀ (a : x.Value) (members : List (String × Json)),
    (x.writings a).head? ≠ some (.object members) := by
  refine forall_mem_all.mpr ⟨?_, ?_, ?_, ?_, ?_, ?_, ?_, ?_, ?_⟩ <;> intro a members h
  · cases h
  · cases a <;> cases h
  all_goals cases h

theorem onTop_written (hx : x ∈ all) (s : Settings) (v : Json) :
    Json.onTop (x.mentionedIn? s.toJson) v = v := by
  rw [mentionedIn?_toJson hx]
  cases hhead : (x.writings (x.get s)).head? with
  | none => rfl
  | some u => exact Json.merge_of_not_object (fun members he => not_object_of_head? x hx _ members (he ▸ hhead)) v

theorem mem_writings_unique (hx : x ∈ all) {a b : x.Value} (ha : v ∈ x.writings a) (hb : v ∈ x.writings b) :
    a = b :=
  Except.ok.inj (((read_eq_ok_iff hx).mpr ha).symm.trans ((read_eq_ok_iff hx).mpr hb))

theorem merge_formats {f g : LogFormat} {members : List (String × Json)} (hu : .object members ∈ format.writings f)
    (hv : v ∈ format.writings g) {k : LogFormat} (h : (Json.object members).merge v ∈ format.writings k) : k = g := by
  obtain rfl : members = [(f.text, .null)] := by simpa [format] using hu
  rcases List.mem_pair.mp hv with rfl | rfl
  · exact mem_writings_unique (by simp [all]) h List.mem_cons_self
  · -- the merge holds the name of the upper format, and no other name than that of `k`
    have hmembers : Json.mergeMembers [(f.text, .null)] [(g.text, .null)] = [(k.text, .null)] := by
      rcases List.mem_pair.mp h with hstring | hobject
      · cases hstring
      · exact Json.object.inj hobject
    have hdistinct : ([(g.text, Json.null)].map Prod.fst).Nodup := List.nodup_singleton g.text
    have hfound := Json.lookup_mergeMembers g.text hdistinct [(f.text, .null)]
    rw [hmembers, Named.lookup_cons_ite, Named.lookup_cons_ite, if_pos rfl] at hfound
    by_contra hne
    rw [if_neg (by cases g <;> cases k <;> first | exact absurd rfl hne | decide)] at hfound
    cases hfound

theorem eq_of_merge (hx : x ∈ all) {a b c : x.Value} (hu : u ∈ x.writings a) (hv : v ∈ x.writings b)
    (h : u.merge v ∈ x.writings c) : c = b := by
  by_cases hobject : ∃ members, u = .object members
  · obtain ⟨members, rfl⟩ := hobject
    have hall : ∀ x ∈ all, ∀ a b c : x.Value, .object members ∈ x.writings a → v ∈ x.writings b →
        (Json.object members).merge v ∈ x.writings c → c = b := by
      refine forall_mem_all.mpr ⟨?_, ?_, ?_, ?_, ?_, ?_, ?_, ?_, ?_⟩ <;> intro a b c hu hv h
      case refine_8 => exact merge_formats hu hv h
      case refine_2 => cases a <;> cases List.mem_singleton.mp hu
      all_goals cases List.mem_singleton.mp hu
    exact hall x hx a b c hu hv h
  · rw [Json.merge_of_not_object fun members he => hobject ⟨members, he⟩] at h
    exact mem_writings_unique hx h hv

theorem ofJson_of_withLayer (h : s.withLayer layer = .ok t) : Settings.ofJson (s.toJson.merge layer) = .ok t := by
  unfold Settings.withLayer at h
  cases hread : Settings.ofJson (s.toJson.merge layer) with
  | error e => rw [hread] at h; cases h
  | ok r =>
    rw [hread] at h
    cases h
    rfl

theorem exists_written (hx : x ∈ all) (a : x.Value) : ∃ v, (x.writings a).head? = some v ∧ v ∈ x.writings a := by
  have hne : ∀ x ∈ all, ∀ a : x.Value, x.writings a ≠ [] := by
    refine forall_mem_all.mpr ⟨?_, ?_, ?_, ?_, ?_, ?_, ?_, ?_, ?_⟩ <;> exact fun _ => List.cons_ne_nil _ _
  exact ⟨_, List.head?_eq_some_head (hne x hx a), List.head_mem _⟩

theorem told_of_withLayer (hx : x ∈ all) (hobjects : layer.OfObjects) (ordered : layer.InOrder)
    (h : s.withLayer layer = .ok t) :
    match x.mentionedIn? layer with
    | some v => v ∈ x.writings (x.get t)
    | none => x.get t = x.get s := by
  have hmerged := ofJson_of_withLayer h
  have hordered := (inOrder_toJson s).merge ordered
  have hobjects' := (ofObjects_toJson s).merge hobjects (inOrder_toJson s) ordered
  have hsaid := mentionedIn?_merge x (ofObjects_toJson s) hobjects ordered
  cases hlayer : x.mentionedIn? layer with
  | some v =>
    simp only [hlayer, onTop_written hx] at hsaid
    exact mem_writings_of_ofJson hx hordered hobjects' hmerged hsaid
  | none =>
    obtain ⟨v, hv, hmem⟩ := exists_written hx (x.get s)
    simp only [hlayer, mentionedIn?_toJson hx, hv] at hsaid
    exact mem_writings_unique hx (mem_writings_of_ofJson hx hordered hobjects' hmerged hsaid) hmem

/-- The setting is what the last of the layers says that mentions it; if there is none, it is as before. -/
def Follows (x : Setting) (layers : List Json) (s t : Settings) : Prop :=
  match (layers.filterMap x.mentionedIn?).getLast? with
  | some v => v ∈ x.writings (x.get t)
  | none => x.get t = x.get s

theorem Follows.concat {layers : List Json} {r : Settings} (hx : x ∈ all) (h : x.Follows layers s t)
    (hobjects : layer.OfObjects) (ordered : layer.InOrder) (hr : t.withLayer layer = .ok r) :
    x.Follows (layers ++ [layer]) s r := by
  have hlast := told_of_withLayer hx hobjects ordered hr
  unfold Follows at h ⊢
  rw [List.filterMap_append]
  cases hlayer : x.mentionedIn? layer with
  | some v =>
    rw [hlayer] at hlast
    rw [List.filterMap_cons_some hlayer, List.filterMap_nil, List.getLast?_concat]
    exact hlast
  | none =>
    rw [hlayer] at hlast
    rw [List.filterMap_cons_none hlayer, List.filterMap_nil, List.append_nil, hlast]
    exact h

/-- A layer mentions a section or a key that no setting has. -/
def UnknownIn (layer : Json) : Prop :=
  ∃ members, layer = .object members ∧ ∃ e ∈ members, (∀ x ∈ all, x.part ≠ e.1) ∨
    ∃ inner, e.2 = .object inner ∧ ∃ f ∈ inner, ∀ x ∈ all, x.part = e.1 → x.key ≠ f.1

theorem exists_part_of_name {name : String} (h : name ∈ Settings.sections.map SectionField.name) :
    ∃ x ∈ all, x.part = name := by
  have hall : ∀ name ∈ Settings.sections.map SectionField.name, name ∈ all.map Setting.part := by decide
  exact List.mem_map.mp (hall name h)

theorem exists_key_of_read {part title : String} {σ : Type} {fields : List (SectionField σ)} {default : σ}
    {of : Settings → σ} (hpart : Shows part (Settings.readSection title fields default) of Settings.sections)
    (hnames : ∀ name ∈ fields.map SectionField.name, (part, name) ∈ all.map fun x => (x.part, x.key))
    {members inner : List (String × Json)} (distinct : (members.map Prod.fst).Nodup)
    (h : Settings.ofJson (.object members) = .ok t) (hinner : members.lookup part = some (.object inner))
    {k : String} (hk : k ∈ inner.map Prod.fst) : ∃ x ∈ all, x.part = part ∧ x.key = k := by
  have hsection := hpart.of_putMembers distinct h
  rw [hinner] at hsection
  obtain ⟨e, he, rfl⟩ := List.mem_map.mp hk
  obtain ⟨x, hx, hpair⟩ := List.mem_map.mp (hnames _ (Settings.mem_names_of_putMembers hsection he))
  exact ⟨x, hx, congrArg Prod.fst hpair, congrArg Prod.snd hpair⟩

theorem not_unknownIn_of_withLayer (ordered : layer.InOrder) (h : s.withLayer layer = .ok t) :
    ¬UnknownIn layer := by
  rintro ⟨members, rfl, e, he, hunknown⟩
  obtain ⟨base, hbase, -⟩ := ofObjects_toJson s
  have hmerged := ofJson_of_withLayer h
  have hdistinct := ((inOrder_toJson s).merge ordered)
  rw [hbase, Json.merge_objects] at hmerged hdistinct
  have hkey : e.1 ∈ (Json.mergeMembers base members).map Prod.fst :=
    (Json.mem_keys_mergeMembers base).mpr (.inr (List.mem_map_of_mem he))
  obtain ⟨e', he', hname⟩ := List.mem_map.mp hkey
  have hsection : e.1 ∈ Settings.sections.map SectionField.name :=
    hname ▸ Settings.mem_names_of_putMembers hmerged he'
  rcases hunknown with hpart | ⟨inner, hinner, f, hf, hnone⟩
  · obtain ⟨x, hx, hpart'⟩ := exists_part_of_name hsection
    exact hpart x hx hpart'
  · obtain ⟨merged, hobject, hkeys⟩ := Json.onTop_object (base.lookup e.1) inner
    have hfound : (Json.mergeMembers base members).lookup e.1 = some (.object merged) := by
      rw [Json.lookup_mergeMembers _ ordered.distinct, (Named.lookup_iff_mem ordered.distinct).mpr he, hinner,
        ← hobject]
    have hknown : ∃ x ∈ all, x.part = e.1 ∧ x.key = f.1 := by
      have hparts : e.1 = "validation" ∨ e.1 = "http" ∨ e.1 = "logging" := by
        simpa [Settings.sections, SectionField.of] using hsection
      rcases hparts with hpart | hpart | hpart <;> rw [hpart] at hfound ⊢
      · exact exists_key_of_read shows_validation (by decide) hdistinct.distinct hmerged hfound (hkeys f hf)
      · exact exists_key_of_read shows_http (by decide) hdistinct.distinct hmerged hfound (hkeys f hf)
      · exact exists_key_of_read shows_logging (by decide) hdistinct.distinct hmerged hfound (hkeys f hf)
    obtain ⟨x, hx, hpart, hkey⟩ := hknown
    exact hnone x hx hpart hkey

end Setting

namespace Loader

open Setting (UnknownIn)

variable {l l' : Loader} {layer : Json} {content format : String}

def addTexts (texts : List (String × String)) (l : Loader) : Except Fault Loader :=
  texts.foldlM (fun l (content, format) => l.addText content format) l

theorem inOrder_of_layerOf (h : layerOf content format = .ok layer) : layer.InOrder := by
  unfold layerOf at h
  split at h
  · cases hread : Toml.read content with
    | none => rw [hread] at h; cases h
    | some v =>
      rw [hread] at h
      cases h
      exact Toml.inOrder_of_read hread
  · cases hread : Json.read (Text.utf8 content) with
    | error e => rw [hread] at h; cases h
    | ok v =>
      rw [hread] at h
      cases h
      exact Json.inOrder_of_read hread
  · cases h

theorem exists_layer_of_addText (h : l.addText content format = .ok l') :
    ∃ layer, layerOf content format = .ok layer ∧ l.settings.withLayer layer = .ok l'.settings := by
  unfold addText at h
  cases hlayer : layerOf content format with
  | error e => rw [hlayer] at h; cases h
  | ok layer =>
    rw [hlayer] at h
    cases hwith : l.settings.withLayer layer with
    | error e => simp [bind, Except.bind, hwith] at h
    | ok s =>
      simp only [bind, Except.bind, hwith] at h
      cases h
      exact ⟨layer, rfl, hwith⟩

theorem addTexts_concat_eq_ok {texts : List (String × String)} {text : String × String}
    (h : l.addTexts (texts ++ [text]) = .ok l') :
    ∃ between, l.addTexts texts = .ok between ∧ between.addText text.1 text.2 = .ok l' := by
  unfold addTexts at h ⊢
  rw [List.foldlM_append] at h
  cases hfront : texts.foldlM (fun l (content, format) => l.addText content format) l with
  | error e => rw [hfront] at h; cases h
  | ok between =>
    rw [hfront] at h
    change [text].foldlM (fun l (content, format) => l.addText content format) between = .ok l' at h
    rw [List.foldlM_cons] at h
    simp only [List.foldlM_nil, bind_pure] at h
    exact ⟨between, rfl, h⟩

theorem addText_of_layerOf {s : Settings} (hlayer : layerOf content format = .ok layer)
    (h : l.settings.withLayer layer = .ok s) : l.addText content format = .ok { l with settings := s } := by
  unfold addText
  rw [hlayer]
  simp [bind, Except.bind, h, pure, Except.pure]

/-- Texts that are put on top one after the other hold layers, which the settings follow. -/
theorem follows_of_addTexts {texts : List (String × String)} (h : l.addTexts texts = .ok l') :
    ∃ layers, texts.mapM (fun (content, format) => layerOf content format) = .ok layers ∧
      ((∀ layer ∈ layers, layer.OfObjects) → ∀ x ∈ Setting.all, x.Follows layers l.settings l'.settings) := by
  induction texts using List.reverseRecOn generalizing l' with
  | nil =>
    cases h
    exact ⟨[], rfl, fun _ _ _ => rfl⟩
  | append_singleton texts text ih =>
    obtain ⟨between, hbetween, hlast⟩ := addTexts_concat_eq_ok h
    obtain ⟨layers, hlayers, hfollows⟩ := ih hbetween
    obtain ⟨layer, hlayer, hwith⟩ := exists_layer_of_addText hlast
    refine ⟨layers ++ [layer], ?_, fun hobjects x hx => ?_⟩
    · rw [List.mapM_append, hlayers]
      simp [bind, Except.bind, pure, Except.pure, hlayer]
    · obtain ⟨hfront, hback⟩ := List.forall_mem_append.mp hobjects
      exact (hfollows hfront x hx).concat hx (hback layer List.mem_cons_self) (inOrder_of_layerOf hlayer) hwith

theorem eq_of_merged {s between t r : Settings} {first second : Json} (hfirst : first.OfObjects)
    (hsecond : second.OfObjects) (ordered : first.InOrder) (ordered' : second.InOrder)
    (h : s.withLayer first = .ok between) (h' : between.withLayer second = .ok t)
    (hmerged : s.withLayer (first.merge second) = .ok r) : t = r := by
  refine Setting.eq_of_gets fun x hx => ?_
  have hlower := Setting.told_of_withLayer hx hfirst ordered h
  have hupper := Setting.told_of_withLayer hx hsecond ordered' h'
  have hboth := Setting.told_of_withLayer hx (hfirst.merge hsecond ordered ordered') (ordered.merge ordered') hmerged
  rw [Setting.mentionedIn?_merge x hfirst hsecond ordered'] at hboth
  cases hmentioned' : x.mentionedIn? second with
  | some v =>
    simp only [hmentioned'] at hupper hboth
    cases hmentioned : x.mentionedIn? first with
    | some u =>
      simp only [hmentioned] at hlower hboth
      exact (Setting.eq_of_merge hx hlower hupper hboth).symm
    | none =>
      simp only [hmentioned] at hboth
      exact Setting.mem_writings_unique hx hupper hboth
  | none =>
    simp only [hmentioned'] at hupper hboth
    cases hmentioned : x.mentionedIn? first with
    | some u =>
      simp only [hmentioned] at hlower hboth
      exact hupper.trans (Setting.mem_writings_unique hx hlower hboth)
    | none =>
      simp only [hmentioned] at hlower hboth
      exact hupper.trans (hlower.trans hboth.symm)

/-- After texts have been put on top of any settings, each of the nine settings is what the last of them says that
mentions it, or what it was. A text that mentions anything else is refused. Two texts do what the merge of their layers
does, wherever that is taken. -/
theorem layers_override :
    (∀ (texts : List (String × String)) (l l' : Loader), l.addTexts texts = .ok l' →
      ∃ layers, texts.mapM (fun (content, format) => layerOf content format) = .ok layers ∧
        ((∀ layer ∈ layers, layer.OfObjects) → ∀ x ∈ Setting.all, x.Follows layers l.settings l'.settings)) ∧
    (∀ (content format : String) (layer : Json) (l : Loader), layerOf content format = .ok layer →
      UnknownIn layer → ∃ fault, l.addText content format = .error fault) ∧
    ∀ (content format content' format' : String) (first second : Json) (l between l' : Loader) (merged : Settings),
      layerOf content format = .ok first → layerOf content' format' = .ok second →
      first.OfObjects → second.OfObjects →
      l.addText content format = .ok between → between.addText content' format' = .ok l' →
      l.settings.withLayer (first.merge second) = .ok merged → l'.settings = merged := by
  refine ⟨fun texts l l' h => follows_of_addTexts h, fun content format layer l hlayer hunknown => ?_, ?_⟩
  · cases hadded : l.addText content format with
    | error fault => exact ⟨fault, rfl⟩
    | ok l' =>
      obtain ⟨found, hfound, hwith⟩ := exists_layer_of_addText hadded
      cases hfound.symm.trans hlayer
      exact absurd hunknown (Setting.not_unknownIn_of_withLayer (inOrder_of_layerOf hlayer) hwith)
  · intro content format content' format' first second l between l' merged hfirst hsecond hobjects hobjects'
      hadded hadded' hmerged
    obtain ⟨found, hfound, hwith⟩ := exists_layer_of_addText hadded
    obtain ⟨found', hfound', hwith'⟩ := exists_layer_of_addText hadded'
    cases hfound.symm.trans hfirst
    cases hfound'.symm.trans hsecond
    exact eq_of_merged hobjects hobjects' (inOrder_of_layerOf hfirst) (inOrder_of_layerOf hsecond) hwith hwith' hmerged

def infoText : String := "[logging]\nlevel = \"info\"\n"

def infoLayer : Json := .object [("logging", .object [("level", .string "info")])]

def warnText : String := "\x7b\"logging\":\x7b\"level\":\"warn\"\x7d\x7d"

def warnLayer : Json := .object [("logging", .object [("level", .string "warn")])]

def informed : Settings := { logging := { level := "info", format := .pretty } }

def warned : Settings := { logging := { level := "warn", format := .pretty } }

theorem info_then_warn :
    addTexts [(infoText, "toml"), (warnText, "json")] { settings := .development } = .ok { settings := warned } ∧
    (∀ x ∈ Setting.all, x.Follows [infoLayer, warnLayer] .development warned) ∧
    (∃ fault, addText "\x7b\"server\":\x7b\x7d\x7d" "json" {} = .error fault) ∧
    ∃ merged, Settings.development.withLayer (infoLayer.merge warnLayer) = .ok merged ∧ warned = merged := by
  have hinfo : layerOf infoText "toml" = .ok infoLayer := by
    rw [infoText]
    cbv
  have hwarn : layerOf warnText "json" = .ok warnLayer := by
    rw [warnText]
    cbv
  have hserver : layerOf "\x7b\"server\":\x7b\x7d\x7d" "json" = .ok (.object [("server", .object [])]) := by cbv
  have hobjects : infoLayer.OfObjects := ⟨_, rfl, List.forall_mem_singleton.mpr ⟨_, rfl⟩⟩
  have hobjects' : warnLayer.OfObjects := ⟨_, rfl, List.forall_mem_singleton.mpr ⟨_, rfl⟩⟩
  have hlower : Settings.development.withLayer infoLayer = .ok informed := by with_unfolding_all rfl
  have hupper : informed.withLayer warnLayer = .ok warned := by with_unfolding_all rfl
  have hmerge : Settings.development.withLayer (infoLayer.merge warnLayer) = .ok warned := by with_unfolding_all rfl
  have hadded : addText infoText "toml" { settings := .development } = .ok { settings := informed } :=
    addText_of_layerOf hinfo hlower
  have hadded' : addText warnText "json" { settings := informed } = .ok { settings := warned } :=
    addText_of_layerOf hwarn hupper
  have hboth : addTexts [(infoText, "toml"), (warnText, "json")] { settings := .development } =
      .ok { settings := warned } := by
    simp [addTexts, hadded, hadded', bind, Except.bind, pure, Except.pure]
  obtain ⟨hfollows, hrefused, hmerged⟩ := layers_override
  obtain ⟨layers, hlayers, hall⟩ := hfollows _ _ _ hboth
  have hfound : layers = [infoLayer, warnLayer] := by
    simpa [hinfo, hwarn, bind, Except.bind, pure, Except.pure] using hlayers.symm
  subst hfound
  refine ⟨hboth, hall (by simp [hobjects, hobjects']), ?_, warned, hmerge, ?_⟩
  · refine hrefused _ _ _ {} hserver ⟨_, rfl, _, List.mem_cons_self, .inl (Setting.forall_mem_all.mpr ?_)⟩
    simp [Setting.all, Setting.flag, Setting.text, Setting.texts, Setting.strictness, Setting.format]
  · exact hmerged _ _ _ _ _ _ _ _ _ _ hinfo hwarn hobjects hobjects' hadded hadded' hmerge

end Loader

end Accord
