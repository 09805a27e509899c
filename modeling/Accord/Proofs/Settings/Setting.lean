import Accord.Proofs.Json.Merging
import Accord.Settings.Environment
import Accord.Settings.Layer

namespace Accord

open Settings (Fault Reader SectionField)

structure Setting where
  {Value : Type}
  part : String
  key : String
  get : Settings → Value
  set : Value → Settings → Settings
  read : Reader Value
  /-- The values that stand for it, the one that is written first. -/
  writings : Value → List Json
  /-- Reads the text of a variable. -/
  parse : String → String → Except Fault Value

namespace Setting

def flag (part key : String) (get : Settings → Bool) (set : Bool → Settings → Settings) : Setting where
  part := part
  key := key
  get := get
  set := set
  read := Settings.readBool
  writings := fun b => [.bool b]
  parse := Settings.boolOf

def text (part key : String) (get : Settings → String) (set : String → Settings → Settings) : Setting where
  part := part
  key := key
  get := get
  set := set
  read := Settings.readText
  writings := fun text => [.string text]
  parse := fun _ value => .ok value

def texts (part key : String) (get : Settings → List String) (set : List String → Settings → Settings) :
    Setting where
  part := part
  key := key
  get := get
  set := set
  read := Settings.readTexts
  writings := fun texts => [.strings texts]
  parse := fun _ value => .ok (Settings.listOf value)

def strictness : Setting where
  part := "validation"
  key := "strict_request_validation"
  get := fun s => s.validation.strictRequests
  set := fun b s => { s with validation.strictRequests := b }
  read := Settings.readOptional Settings.readBool
  writings := fun b => [.ofOption .bool b]
  parse := Settings.strictnessOf

def format : Setting where
  part := "logging"
  key := "format"
  get := fun s => s.logging.format
  set := fun format s => { s with logging.format := format }
  read := Settings.readFormat
  writings := fun format => [.string format.text, .object [(format.text, .null)]]
  parse := Settings.formatOf

def all : List Setting := [
  flag "validation" "validate_responses" (fun s => s.validation.validateResponses)
    fun b s => { s with validation.validateResponses := b },
  strictness,
  flag "validation" "strict_response_validation" (fun s => s.validation.strictResponses)
    fun b s => { s with validation.strictResponses := b },
  texts "http" "treat_as_post" (fun s => s.http.treatAsPost) fun names s => { s with http.treatAsPost := names },
  texts "http" "allowed_http_methods" (fun s => s.http.allowedMethods)
    fun names s => { s with http.allowedMethods := names },
  flag "logging" "enabled" (fun s => s.logging.enabled) fun b s => { s with logging.enabled := b },
  text "logging" "level" (fun s => s.logging.level) fun level s => { s with logging.level := level },
  format,
  text "logging" "service_name" (fun s => s.logging.serviceName)
    fun name s => { s with logging.serviceName := name }]

variable {x : Setting} {s t : Settings} {u v : Json}

theorem forall_mem_all {P : Setting → Prop} : (∀ x ∈ all, P x) ↔
    P all[0] ∧ P all[1] ∧ P all[2] ∧ P all[3] ∧ P all[4] ∧ P all[5] ∧ P all[6] ∧ P all[7] ∧ P all[8] := by
  simp [all]

theorem eq_of_gets (h : ∀ x ∈ all, x.get s = x.get t) : s = t := by
  obtain ⟨⟨a, b, c⟩, ⟨d, e⟩, ⟨f, g, i, j⟩⟩ := s
  obtain ⟨⟨a', b', c'⟩, ⟨d', e'⟩, ⟨f', g', i', j'⟩⟩ := t
  obtain ⟨h0, h1, h2, h3, h4, h5, h6, h7, h8⟩ := forall_mem_all.mp h
  cases h0; cases h1; cases h2; cases h3; cases h4; cases h5; cases h6; cases h7; cases h8
  rfl

theorem readBool_eq_ok_iff {b : Bool} : Settings.readBool v = .ok b ↔ v = .bool b := by
  cases v <;> simp [Settings.readBool, Settings.mistyped]

theorem readText_eq_ok_iff {text : String} : Settings.readText v = .ok text ↔ v = .string text := by
  cases v <;> simp [Settings.readText, Settings.mistyped]

theorem readOptional_eq_ok_iff {b : Option Bool} :
    Settings.readOptional Settings.readBool v = .ok b ↔ v = .ofOption .bool b := by
  cases v <;> cases b <;>
    simp [Settings.readOptional, Settings.readBool, Settings.mistyped, Json.ofOption, Except.map]

theorem mapM_readText_eq_ok_iff {items : List Json} {names : List String} :
    items.mapM Settings.readText = .ok names ↔ items = names.map .string := by
  induction items generalizing names with
  | nil => cases names <;> simp [pure, Except.pure]
  | cons v items ih =>
    rw [List.mapM_cons]
    cases hv : Settings.readText v with
    | error e =>
      cases names with
      | nil => simp [bind, Except.bind]
      | cons name names =>
        have hne : v ≠ .string name := fun he => by rw [readText_eq_ok_iff.mpr he] at hv; cases hv
        simp [bind, Except.bind, hne]
    | ok name =>
      rw [readText_eq_ok_iff] at hv
      subst hv
      cases hitems : items.mapM Settings.readText with
      | error e =>
        have hne : ∀ names : List String, items ≠ names.map .string := fun names he => by
          rw [ih.mpr he] at hitems
          cases hitems
        cases names <;> simp [bind, Except.bind, hne]
      | ok found =>
        have hfound := ih.mp hitems
        subst hfound
        cases names with
        | nil => simp [bind, Except.bind, pure, Except.pure]
        | cons first names =>
          have hinj : (found.map Json.string = names.map Json.string) ↔ found = names :=
            List.map_inj_right fun _ _ h => Json.string.inj h
          simp [bind, Except.bind, pure, Except.pure, hinj]

theorem readTexts_eq_ok_iff {names : List String} : Settings.readTexts v = .ok names ↔ v = .strings names := by
  cases v <;> simp [Settings.readTexts, Settings.mistyped, Json.strings, mapM_readText_eq_ok_iff]

theorem readFormatName_eq_ok_iff {name : String} {format : LogFormat} :
    Settings.readFormatName name = .ok format ↔ name = format.text := by
  unfold Settings.readFormatName
  by_cases hjson : name = "json"
  · subst hjson
    cases format <;> simp [Settings.formats, LogFormat.text]
  · by_cases hpretty : name = "pretty"
    · subst hpretty
      cases format <;> simp [Settings.formats, LogFormat.text]
    · cases format <;> simp [Settings.formats, LogFormat.text, hjson, hpretty, Ne.symm hjson, Ne.symm hpretty]

theorem readFormat_eq_ok_iff {format : LogFormat} :
    Settings.readFormat v = .ok format ↔ v = .string format.text ∨ v = .object [(format.text, .null)] := by
  unfold Settings.readFormat
  split
  · simp [readFormatName_eq_ok_iff]
  · next name w =>
    cases hname : Settings.readFormatName name with
    | error e =>
      have hne : name ≠ format.text := fun he => by
        rw [readFormatName_eq_ok_iff.mpr he] at hname
        cases hname
      simp [bind, Except.bind, hne]
    | ok found =>
      rw [readFormatName_eq_ok_iff] at hname
      subst hname
      cases w <;> cases found <;> cases format <;>
        simp [bind, Except.bind, Json.isNull, Settings.mistyped, pure, Except.pure, LogFormat.text]
  · next members hmembers =>
    simp only [reduceCtorEq, false_or, Json.object.injEq, false_iff]
    rintro rfl
    exact hmembers _ _ rfl
  · next hstring hone hobject =>
    have hne : v ≠ .string format.text := fun he => hstring _ he
    have hne' : v ≠ .object [(format.text, .null)] := fun he => hobject _ he
    simp [Settings.mistyped, hne, hne']

theorem read_eq_ok_iff (hx : x ∈ all) {a : x.Value} : x.read v = .ok a ↔ v ∈ x.writings a := by
  have hall : ∀ x ∈ all, ∀ a : x.Value, x.read v = .ok a ↔ v ∈ x.writings a :=
    forall_mem_all.mpr ⟨fun _ => readBool_eq_ok_iff.trans List.mem_singleton.symm,
      fun _ => readOptional_eq_ok_iff.trans List.mem_singleton.symm,
      fun _ => readBool_eq_ok_iff.trans List.mem_singleton.symm,
      fun _ => readTexts_eq_ok_iff.trans List.mem_singleton.symm,
      fun _ => readTexts_eq_ok_iff.trans List.mem_singleton.symm,
      fun _ => readBool_eq_ok_iff.trans List.mem_singleton.symm,
      fun _ => readText_eq_ok_iff.trans List.mem_singleton.symm,
      fun _ => readFormat_eq_ok_iff.trans List.mem_pair.symm,
      fun _ => readText_eq_ok_iff.trans List.mem_singleton.symm⟩
  exact hall x hx a

end Setting

end Accord
