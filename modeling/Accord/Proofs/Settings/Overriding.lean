import Accord.Proofs.Bytes
import Accord.Proofs.Settings.Setting
import Accord.Settings.Loader

namespace Accord

open Settings (Fault)

namespace Settings

theorem splitPath_ne_nil (s : List Char) : splitPath s ≠ [] := by
  fun_cases splitPath s <;> simp

theorem intercalate_splitPath (s : List Char) : ['_', '_'].intercalate (splitPath s) = s := by
  fun_induction splitPath s with
  | case1 => rfl
  | case2 rest ih =>
    obtain ⟨piece, pieces, hpieces⟩ := List.exists_cons_of_ne_nil (splitPath_ne_nil rest)
    rw [hpieces] at ih ⊢
    rw [List.intercalate_cons_cons, ih]
    rfl
  | case3 c rest _ piece pieces hpieces ih =>
    rw [hpieces] at ih
    rw [← ih]
    cases pieces <;> simp [List.intercalate_cons_cons]
  | case4 c rest _ hpieces => exact absurd hpieces (splitPath_ne_nil rest)

theorem eq_of_pathOf? {lead name : String} {path : List String} (h : pathOf? lead name = some path) :
    name.toList = lead.toList ++ ['_', '_'] ++ ['_', '_'].intercalate (path.map String.toList) := by
  unfold pathOf? at h
  dsimp only at h
  split at h
  · next hlead =>
    obtain ⟨rest, hrest⟩ := List.isPrefixOf_iff_prefix.mp hlead
    rw [← hrest, List.drop_left] at h
    cases h
    have hpieces : ((splitPath rest).map String.ofList).map String.toList = splitPath rest := by
      simp [Function.comp_def]
    rw [hpieces, intercalate_splitPath, hrest]
  · cases h

end Settings

namespace Setting

variable {x y : Setting} {lead name value : String} {other : List String} {s t : Settings}
  {e e' : Named String}

def path (x : Setting) : List String := [Text.asciiUpper x.part, Text.asciiUpper x.key]

def nameUnder (lead : String) (x : Setting) : String :=
  lead ++ "__" ++ Text.asciiUpper x.part ++ "__" ++ Text.asciiUpper x.key

theorem toList_nameUnder (lead : String) (x : Setting) :
    (x.nameUnder lead).toList =
      lead.toList ++ ['_', '_'] ++ ['_', '_'].intercalate (x.path.map String.toList) := by
  simp [nameUnder, path, List.intercalate_cons_cons]

theorem splitPath_intercalate_path : ∀ x ∈ all,
    Settings.splitPath (['_', '_'].intercalate (x.path.map String.toList)) = x.path.map String.toList :=
  forall_mem_all.mpr (by decide +kernel)

theorem pathOf?_eq_path_iff (hx : x ∈ all) : Settings.pathOf? lead name = some x.path ↔ name = x.nameUnder lead := by
  constructor
  · intro h
    exact String.toList_inj.mp ((Settings.eq_of_pathOf? h).trans (toList_nameUnder lead x).symm)
  · rintro rfl
    unfold Settings.pathOf?
    rw [toList_nameUnder]
    simp only [List.drop_left, splitPath_intercalate_path x hx]
    rw [if_pos (List.isPrefixOf_iff_prefix.mpr (List.prefix_append _ _))]
    simp [Function.comp_def]

theorem eq_of_path_eq (hx : x ∈ all) (hy : y ∈ all) (h : x.path = y.path) : x = y := by
  have distinct : (all.map path).Nodup := by decide +kernel
  exact List.inj_on_of_nodup_map distinct hx hy h

theorem eq_of_nameUnder_eq (hx : x ∈ all) (hy : y ∈ all) (h : x.nameUnder lead = y.nameUnder lead) : x = y := by
  have hpath : Settings.pathOf? lead (x.nameUnder lead) = some x.path := (pathOf?_eq_path_iff hx).mpr rfl
  rw [(pathOf?_eq_path_iff hy).mpr h] at hpath
  exact eq_of_path_eq hx hy (Option.some.inj hpath).symm

theorem get_set (hx : x ∈ all) (a : x.Value) (s : Settings) : x.get (x.set a s) = a := by
  have hall : ∀ x ∈ all, ∀ (a : x.Value) (s : Settings), x.get (x.set a s) = a := by
    refine forall_mem_all.mpr ⟨?_, ?_, ?_, ?_, ?_, ?_, ?_, ?_, ?_⟩ <;> exact fun _ _ => rfl
  exact hall x hx a s

theorem get_set_of_ne (hx : x ∈ all) (hy : y ∈ all) (ne : x ≠ y) (a : y.Value) (s : Settings) :
    x.get (y.set a s) = x.get s := by
  have hall : ∀ x ∈ all, ∀ y ∈ all, x ≠ y → ∀ (a : y.Value) (s : Settings), x.get (y.set a s) = x.get s := by
    refine forall_mem_all.mpr ⟨?_, ?_, ?_, ?_, ?_, ?_, ?_, ?_, ?_⟩ <;>
      refine forall_mem_all.mpr ⟨?_, ?_, ?_, ?_, ?_, ?_, ?_, ?_, ?_⟩ <;>
      first
        | exact fun _ _ _ => rfl
        | exact fun ne => absurd rfl ne
  exact hall x hx y hy ne a s

theorem override_path (hx : x ∈ all) (name value : String) (s : Settings) :
    Settings.override name value x.path s = (x.parse name value).map fun a => x.set a s := by
  have hall : ∀ x ∈ all, Settings.override name value x.path s = (x.parse name value).map fun a => x.set a s :=
    forall_mem_all.mpr ⟨rfl, rfl, rfl, rfl, rfl, rfl, rfl, rfl, rfl⟩
  exact hall x hx

theorem override_of_not_path (h : ∀ x ∈ all, other ≠ x.path) : Settings.override name value other s = .ok s := by
  obtain ⟨h0, h1, h2, h3, h4, h5, h6, h7, h8⟩ := forall_mem_all.mp h
  unfold Settings.override
  split
  · exact absurd rfl h0
  · exact absurd rfl h1
  · exact absurd rfl h2
  · exact absurd rfl h3
  · exact absurd rfl h4
  · exact absurd rfl h5
  · exact absurd rfl h6
  · exact absurd rfl h7
  · exact absurd rfl h8
  · rfl

/-- What variables make of a setting: what the one says that is named for it, or what it was. -/
def Told (lead : String) (e : Named String) (s t : Settings) (x : Setting) : Prop :=
  match e.lookup (x.nameUnder lead) with
  | some value => x.parse (x.nameUnder lead) value = .ok (x.get t)
  | none => x.get t = x.get s

theorem told_cons_of_ne (ne : x.nameUnder lead ≠ name) :
    Told lead ((name, value) :: e) s t x ↔ Told lead e s t x := by
  unfold Told
  rw [Named.lookup_cons_ite, if_neg ne]

theorem told_congr {s' : Settings} (h : x.get s = x.get s') : Told lead e s t x ↔ Told lead e s' t x := by
  unfold Told
  rw [h]

theorem withVariables_cons (lead name value : String) (e : Named String) (s : Settings) :
    s.withVariables lead ((name, value) :: e) =
      (match Settings.pathOf? lead name with
        | some path => Settings.override name value path s
        | none => .ok s).bind fun between => between.withVariables lead e := by
  unfold Settings.withVariables
  rw [List.foldlM_cons]
  rfl

theorem withVariables_cons_of_names (hx : x ∈ all) (value : String) (e : Named String) (s : Settings) :
    s.withVariables lead ((x.nameUnder lead, value) :: e) =
      (x.parse (x.nameUnder lead) value).bind fun a => (x.set a s).withVariables lead e := by
  rw [withVariables_cons, (pathOf?_eq_path_iff hx).mpr rfl]
  simp only [override_path hx]
  cases x.parse (x.nameUnder lead) value <;> rfl

theorem withVariables_cons_of_other (h : ∀ x ∈ all, name ≠ x.nameUnder lead) (value : String) (e : Named String)
    (s : Settings) : s.withVariables lead ((name, value) :: e) = s.withVariables lead e := by
  rw [withVariables_cons]
  cases hpath : Settings.pathOf? lead name with
  | none => rfl
  | some path =>
    have hother : ∀ x ∈ all, path ≠ x.path := by
      rintro x hx rfl
      exact h x hx ((pathOf?_eq_path_iff hx).mp hpath)
    simp only [override_of_not_path hother]
    rfl

theorem told_cons_self (y : Setting) :
    Told lead ((y.nameUnder lead, value) :: e) s t y ↔ y.parse (y.nameUnder lead) value = .ok (y.get t) := by
  unfold Told
  rw [Named.lookup_cons_ite, if_pos rfl]

theorem told_cons_iff_told_set (hx : x ∈ all) (hy : y ∈ all) (hnone : e.lookup (y.nameUnder lead) = none)
    {a : y.Value} (hparse : y.parse (y.nameUnder lead) value = .ok a) :
    Told lead ((y.nameUnder lead, value) :: e) s t x ↔ Told lead e (y.set a s) t x := by
  by_cases hxy : x = y
  · subst hxy
    rw [told_cons_self, hparse]
    unfold Told
    rw [hnone, get_set hx]
    exact ⟨fun h => (Except.ok.inj h).symm, fun h => h ▸ rfl⟩
  · rw [told_cons_of_ne fun h => hxy (eq_of_nameUnder_eq hx hy h)]
    exact told_congr (get_set_of_ne hx hy hxy a s).symm

/-- Variables give these settings just if each setting is told by its variable. -/
theorem withVariables_eq_ok_iff (distinct : (e.map Prod.fst).Nodup) :
    s.withVariables lead e = .ok t ↔ ∀ x ∈ all, Told lead e s t x := by
  induction e generalizing s with
  | nil =>
    constructor
    · intro h x _
      cases h
      rfl
    · intro h
      exact congrArg Except.ok (eq_of_gets fun x hx => (h x hx).symm)
  | cons first e ih =>
    obtain ⟨name, value⟩ := first
    obtain ⟨hfresh, hrest⟩ := List.nodup_cons.mp distinct
    have hnone : e.lookup name = none := Named.lookup_eq_none_iff_not_mem.mpr hfresh
    by_cases hnames : ∃ y ∈ all, name = y.nameUnder lead
    · obtain ⟨y, hy, rfl⟩ := hnames
      rw [withVariables_cons_of_names hy]
      cases hparse : y.parse (y.nameUnder lead) value with
      | error fault =>
        refine ⟨fun h => (nomatch h), fun h => ?_⟩
        have htold := (told_cons_self y).mp (h y hy)
        rw [hparse] at htold
        cases htold
      | ok a =>
        exact (ih hrest).trans (forall₂_congr fun x hx => (told_cons_iff_told_set hx hy hnone hparse).symm)
    · have hother : ∀ x ∈ all, name ≠ x.nameUnder lead := fun x hx h => hnames ⟨x, hx, h⟩
      rw [withVariables_cons_of_other hother]
      exact (ih hrest).trans (forall₂_congr fun x hx => (told_cons_of_ne (hother x hx).symm).symm)

def overrides (lead name : String) : Bool := all.any fun x => name == x.nameUnder lead

theorem withVariables_filter (lead : String) (e : Named String) (s : Settings) :
    s.withVariables lead (e.filter fun v => overrides lead v.1) = s.withVariables lead e := by
  induction e generalizing s with
  | nil => rfl
  | cons first e ih =>
    obtain ⟨name, value⟩ := first
    rw [List.filter_cons]
    split
    · rw [withVariables_cons, withVariables_cons]
      simp only [ih]
    · next h =>
      have hother : ∀ x ∈ all, name ≠ x.nameUnder lead := fun x hx he =>
        h (List.any_eq_true.mpr ⟨x, hx, beq_iff_eq.mpr he⟩)
      rw [ih, withVariables_cons_of_other hother]

theorem parse_ne_panic (hx : x ∈ all) (name value : String) : x.parse name value ≠ .error .panic := by
  have hbool : ∀ name value, Settings.boolOf name value ≠ .error .panic := by
    intro name value
    unfold Settings.boolOf
    split <;> exact fun h => nomatch h
  have hall : ∀ x ∈ all, x.parse name value ≠ .error .panic := by
    refine forall_mem_all.mpr ⟨hbool _ _, ?_, hbool _ _, nofun, nofun, hbool _ _, nofun, ?_, nofun⟩
    · change Settings.strictnessOf name value ≠ .error .panic
      unfold Settings.strictnessOf
      split
      · exact fun h => nomatch h
      · cases hvalue : Settings.boolOf name value with
        | ok b => exact fun h => nomatch h
        | error fault =>
          intro h
          cases h
          exact hbool name value hvalue
    · change Settings.formatOf name value ≠ .error .panic
      unfold Settings.formatOf
      split <;> exact fun h => nomatch h
  exact hall x hx

theorem withVariables_ne_panic (lead : String) (e : Named String) (s : Settings) :
    s.withVariables lead e ≠ .error .panic := by
  induction e generalizing s with
  | nil => exact fun h => nomatch h
  | cons first e ih =>
    obtain ⟨name, value⟩ := first
    by_cases hnames : ∃ y ∈ all, name = y.nameUnder lead
    · obtain ⟨y, hy, rfl⟩ := hnames
      rw [withVariables_cons_of_names hy]
      cases hparse : y.parse (y.nameUnder lead) value with
      | error fault =>
        intro h
        cases h
        exact parse_ne_panic hy _ _ hparse
      | ok a => exact ih _
    · rw [withVariables_cons_of_other fun x hx h => hnames ⟨x, hx, h⟩]
      exact ih s

theorem withVariables_of_perm (distinct : (e.map Prod.fst).Nodup) (h : e'.Perm e) :
    (s.withVariables lead e').toOption = (s.withVariables lead e).toOption := by
  have hdistinct : (e'.map Prod.fst).Nodup := (h.map Prod.fst).nodup_iff.mpr distinct
  have hlookup : ∀ name, e'.lookup name = e.lookup name := fun name =>
    Option.ext fun value => by rw [Named.lookup_iff_mem hdistinct, Named.lookup_iff_mem distinct, h.mem_iff]
  have hsome : ∀ (r : Except Fault Settings) t, r.toOption = some t ↔ r = .ok t := fun r t => by
    cases r <;> simp [Except.toOption]
  ext t
  rw [hsome, hsome, withVariables_eq_ok_iff hdistinct, withVariables_eq_ok_iff distinct]
  unfold Told
  simp only [hlookup]

end Setting

namespace Environment

variable {e e' : Environment}

theorem texts?_eq_some_iff {texts : Named String} :
    e.texts? = some texts ↔ (∀ v ∈ e, (read? v).isSome) ∧ e.filterMap read? = texts := by
  rw [texts?, Option.ite_none_right_eq_some, List.all_eq_true, Option.some.injEq]

theorem texts?_eq_none_iff : e.texts? = none ↔ ∃ v ∈ e, read? v = none := by
  rw [← Option.not_isSome_iff_eq_none, Option.isSome_iff_exists]
  simp only [texts?_eq_some_iff, exists_and_left, exists_eq', and_true, not_forall,
    Option.not_isSome_iff_eq_none, exists_prop]

theorem name_of_read? {v : Bytes × Bytes} {text : String × String} (h : read? v = some text) :
    v.1 = Text.utf8 text.1 := by
  obtain ⟨name, hname, h⟩ := Option.bind_eq_some_iff.mp h
  obtain ⟨value, -, h⟩ := Option.bind_eq_some_iff.mp h
  cases h
  exact (Text.utf8_of_ofUtf8? hname).symm

theorem nodup_names_of_texts? {texts : Named String} (distinct : (e.map Prod.fst).Nodup)
    (h : e.texts? = some texts) : (texts.map Prod.fst).Nodup := by
  obtain ⟨-, rfl⟩ := texts?_eq_some_iff.mp h
  have hapart : e.Pairwise fun v w => v.1 ≠ w.1 := List.pairwise_map.mp distinct
  refine List.pairwise_map.mpr (hapart.filterMap _ fun v w hne text hv text' hw hsame => hne ?_)
  rw [name_of_read? hv, name_of_read? hw, hsame]

theorem texts?_of_perm (h : e'.Perm e) :
    (e'.texts? = none ∧ e.texts? = none) ∨
      ∃ texts texts', e.texts? = some texts ∧ e'.texts? = some texts' ∧
        texts'.Perm texts := by
  cases hread : e.texts? with
  | none =>
    obtain ⟨v, hv, hnone⟩ := texts?_eq_none_iff.mp hread
    exact .inl ⟨texts?_eq_none_iff.mpr ⟨v, h.mem_iff.mpr hv, hnone⟩, rfl⟩
  | some texts =>
    obtain ⟨hall, rfl⟩ := texts?_eq_some_iff.mp hread
    refine .inr ⟨_, e'.filterMap read?, rfl, texts?_eq_some_iff.mpr ⟨?_, rfl⟩, h.filterMap _⟩
    exact fun v hv => hall v (h.mem_iff.mp hv)

def overriding (lead : String) (e : Environment) : Environment :=
  e.filter fun v => (read? v).any fun text => Setting.overrides lead text.1

theorem filterMap_overriding (lead : String) (e : Environment) :
    (e.overriding lead).filterMap read? =
      (e.filterMap read?).filter fun text => Setting.overrides lead text.1 := by
  induction e with
  | nil => rfl
  | cons v rest ih =>
    cases hread : read? v with
    | none => simpa [overriding, hread] using ih
    | some text =>
      cases hoverrides : Setting.overrides lead text.1 <;>
        simpa [overriding, hread, hoverrides] using ih

end Environment

namespace Loader

def settled (l : Loader) : Except Fault Settings :=
  match l.lead with
  | some lead =>
    match l.environment.texts? with
    | some texts => l.settings.withVariables lead texts
    | none => .error .panic
  | none => .ok l.settings

theorem load_eq (l : Loader) : l.load = l.settled.bind fun s => s.check.map fun _ => s := by
  unfold load settled
  cases l.lead with
  | none => rfl
  | some lead => cases l.environment.texts? <;> rfl

theorem toOption_load (l : Loader) :
    l.load.toOption = l.settled.toOption.bind fun s => (s.check.map fun _ => s).toOption := by
  rw [load_eq]
  cases l.settled <;> rfl

theorem check_ne_panic (s : Settings) : s.check ≠ .error .panic := by
  unfold Settings.check
  split
  · exact fun h => nomatch h
  · split
    · exact fun h => nomatch h
    · split <;> exact fun h => nomatch h

theorem load_eq_panic_iff (l : Loader) :
    l.load = .error .panic ↔ l.lead.isSome ∧ ∃ v ∈ l.environment, Environment.read? v = none := by
  have hchecked : ∀ s : Settings, (s.check.map fun _ => s) ≠ .error .panic := by
    intro s h
    cases hcheck : s.check with
    | ok _ => rw [hcheck] at h; cases h
    | error fault =>
      rw [hcheck] at h
      cases h
      exact check_ne_panic s hcheck
  rw [load_eq, settled, ← Environment.texts?_eq_none_iff]
  cases l.lead with
  | none => exact iff_of_false (hchecked _) fun h => Bool.false_ne_true h.1
  | some lead =>
    cases hread : l.environment.texts? with
    | none => exact iff_of_true rfl ⟨rfl, rfl⟩
    | some texts =>
      refine iff_of_false (fun h => ?_) fun h => nomatch h.2
      cases hsettings : l.settings.withVariables lead texts with
      | ok s =>
        simp only [hsettings] at h
        exact hchecked s h
      | error fault =>
        simp only [hsettings] at h
        cases h
        exact Setting.withVariables_ne_panic lead texts l.settings hsettings

theorem load_of_perm {l : Loader} (distinct : (l.environment.map Prod.fst).Nodup) {e : Environment}
    (h : e.Perm l.environment) : ({ l with environment := e } : Loader).load.toOption = l.load.toOption := by
  obtain ⟨files, environment, settings, lead⟩ := l
  cases lead with
  | none => rfl
  | some lead =>
    rw [toOption_load, toOption_load, settled, settled]
    dsimp only at h distinct ⊢
    rcases Environment.texts?_of_perm h with ⟨hnone, hnone'⟩ | ⟨texts, texts', hread, hread', hperm⟩
    · rw [hnone, hnone']
    · have hsettings : (settings.withVariables lead texts').toOption =
          (settings.withVariables lead texts).toOption :=
        Setting.withVariables_of_perm (Environment.nodup_names_of_texts? distinct hread) hperm
      simp only [hread, hread', hsettings]

theorem load_of_overriding {l : Loader} {lead : String} (hlead : l.lead = some lead) {e : Environment}
    {texts texts' : Named String} (hread : l.environment.texts? = some texts)
    (hread' : e.texts? = some texts') (h : e.overriding lead = l.environment.overriding lead) :
    ({ l with environment := e } : Loader).load = l.load := by
  have hsame : texts'.filter (fun v => Setting.overrides lead v.1) =
      texts.filter fun v => Setting.overrides lead v.1 := by
    obtain ⟨-, rfl⟩ := Environment.texts?_eq_some_iff.mp hread
    obtain ⟨-, rfl⟩ := Environment.texts?_eq_some_iff.mp hread'
    rw [← Environment.filterMap_overriding, ← Environment.filterMap_overriding, h]
  have hsettings : l.settings.withVariables lead texts' = l.settings.withVariables lead texts := by
    rw [← Setting.withVariables_filter _ texts', hsame, Setting.withVariables_filter]
  rw [load_eq, load_eq, settled, settled]
  simp only [hlead, hread, hread', hsettings]

def mixed : Loader where
  environment := .ofTexts [("HERON__LOGGING__LEVEL", "warn"), ("PATH", "/bin"),
    ("HERON__LOGGING__COLOR", "red"), ("HERON__VALIDATION__STRICT_REQUEST_VALIDATION", "off")]
  lead := some "HERON"

def mixedOverrides : Environment :=
  .ofTexts [("HERON__LOGGING__LEVEL", "warn"), ("HERON__VALIDATION__STRICT_REQUEST_VALIDATION", "off")]

def broken : Loader where
  environment := [(Text.utf8 "GREETING", [0xFF])]
  lead := some "HERON"

def suffixed (e : Environment) : Except Fault Settings := do
  let l : Loader := {
    files := [(".env", .file (Text.utf8 "HERON__LOGGING__SERVICE_NAME=app${SUFFIX}"))]
    environment := e }
  (← (← l.add .dotenv).add (.environment "heron")).load

theorem find_dotenv (data : Bytes) : Files.find? ".env" [(".env", .file data)] = some (.file data) := by
  have hstart : (".env".isEmpty || ".env".startsWith "/") = false := by decide +kernel
  have hend : ".env".endsWith "/" = false := by decide +kernel
  unfold Files.find?
  rw [hstart, if_neg Bool.false_ne_true, List.find?_cons_of_pos]
  · simp only [hend, Bool.false_eq_true, if_false]
  · exact beq_self_eq_true (Files.parts ".env")

theorem suffixed_eq (e : Environment) : suffixed e =
    match Dotenv.load e "HERON__LOGGING__SERVICE_NAME=app${SUFFIX}" with
    | some e => ({ environment := e, lead := some "HERON" } : Loader).load
    | none => .error .malformedEnvironment := by
  have hlead : Text.upper "heron" = "HERON" := by decide +kernel
  unfold suffixed
  simp only [add, find_dotenv, addVariables, Text.ofUtf8?_utf8, Option.bind_some, hlead]
  cases Dotenv.load e "HERON__LOGGING__SERVICE_NAME=app${SUFFIX}" <;> rfl

end Loader

end Accord
