import Accord.Proofs.Trial.Uploads

namespace Accord.Trial

namespace UploadPart

variable {name value : String} {p : UploadPart} {parts : List UploadPart}

def field? : UploadPart → Option (String × String)
  | text name value => some (name, value)
  | file .. => none

def file? : UploadPart → Option (String × String × String × Bytes)
  | text .. => none
  | file name filename contentType content => some (name, filename, ContentType.declared contentType, content)

def told (e : String × UploadedFile) : String × String × String × Bytes :=
  (e.1, e.2.filename, e.2.contentType, e.2.data)

/-- That nothing of a form is lost, doubled or moved. -/
structure Kept (parts : List UploadPart) (form : Form) : Prop where
  fields : form.fields = parts.filterMap field?
  files : form.files.map told = parts.filterMap file?

def Recognized (p : UploadPart) : Prop := Doubled p.fieldName → p.filename? = none

instance (p : UploadPart) : Decidable p.Recognized := inferInstanceAs (Decidable (_ → _))

theorem filename_part (h : p.Recognized) : p.part.info.filename = p.filename? := by
  by_cases hdoubled : Doubled p.fieldName
  · exact (if_pos hdoubled).trans (h hdoubled).symm
  · exact if_neg hdoubled

theorem filename_part_of_not_recognized (h : ¬p.Recognized) : p.part.info.filename = none :=
  if_pos (Classical.not_imp.mp h).1

theorem text_part (hmark : value.toList.head? ≠ some Text.mark) : (text name value).part.text = value := by
  have hlabel : Text.Charset.ofLabel? "utf-8" = some .utf8 := by decide +kernel
  change ((Text.Charset.ofLabel? "utf-8").getD .utf8).decode (Text.utf8 value) = value
  rw [hlabel]
  exact Text.decode_utf8 hmark

theorem field?_part (h : p.Sendable) (hrecognized : p.Recognized) : Form.field? p.part = p.field? := by
  unfold Form.field?
  rw [filename_part hrecognized]
  cases h with
  | @text name value _ hmark =>
    change some (name, (text name value).part.text) = some (name, value)
    rw [text_part hmark]
  | file => rfl

theorem file?_part (h : p.Sendable) (hrecognized : p.Recognized) : (Form.file? p.part).map told = p.file? := by
  unfold Form.file?
  rw [filename_part hrecognized]
  cases h with
  | text => rfl
  | @file name filename contentType content _ _ htype =>
    obtain ⟨c, hread, hessence⟩ := ContentType.exists_read?_of_tight htype
    change some (name, filename, ((ContentType.read? contentType).getD .octets).essence, content) =
      some (name, filename, ContentType.declared contentType, content)
    rw [hread, Option.getD_some, hessence]

theorem file?_part_of_not_recognized (h : ¬p.Recognized) : Form.file? p.part = none := by
  unfold Form.file?
  rw [filename_part_of_not_recognized h, Option.map_none]

theorem file?_part_eq_iff (h : p.Sendable) : (Form.file? p.part).map told = p.file? ↔ p.Recognized := by
  refine ⟨fun heq => ?_, file?_part h⟩
  by_contra hnot
  rw [file?_part_of_not_recognized hnot] at heq
  cases h with
  | text => exact hnot fun _ => rfl
  | file => cases heq

section Dropping

variable {α β : Type} {f g : α → Option β} {l : List α}

theorem length_filterMap_le (h : ∀ a ∈ l, f a = g a ∨ f a = none) :
    (l.filterMap f).length ≤ (l.filterMap g).length := by
  induction l with
  | nil => exact Nat.le_refl _
  | cons a l ih =>
    obtain ⟨ha, hl⟩ := List.forall_mem_cons.mp h
    have hle := ih hl
    rcases ha with ha | ha
    · cases hg : g a <;> simp [ha, hg, hle]
    · cases hg : g a
      · simpa [ha, hg] using hle
      · rw [List.filterMap_cons_none ha, List.filterMap_cons_some hg]
        exact Nat.le_succ_of_le hle

theorem filterMap_eq_iff (h : ∀ a ∈ l, f a = g a ∨ f a = none) :
    l.filterMap f = l.filterMap g ↔ ∀ a ∈ l, f a = g a := by
  refine ⟨fun heq => ?_, List.filterMap_congr⟩
  induction l with
  | nil => exact fun _ ha => (nomatch ha)
  | cons a l ih =>
    obtain ⟨ha, hl⟩ := List.forall_mem_cons.mp h
    cases hf : f a with
    | none =>
      rw [List.filterMap_cons_none hf] at heq
      cases hg : g a with
      | none =>
        rw [List.filterMap_cons_none hg] at heq
        exact List.forall_mem_cons.mpr ⟨hf.trans hg.symm, ih hl heq⟩
      | some b =>
        have hlength := congrArg List.length heq
        rw [List.filterMap_cons_some hg, List.length_cons] at hlength
        exact absurd (length_filterMap_le hl) (by omega)
    | some b =>
      have hfirst : f a = g a := ha.resolve_right (by rw [hf]; nofun)
      rw [List.filterMap_cons_some hf, List.filterMap_cons_some (hfirst ▸ hf)] at heq
      exact List.forall_mem_cons.mpr ⟨hfirst, ih hl (List.cons.inj heq).2⟩

end Dropping

theorem kept_ofParts_iff (h : ∀ p ∈ parts, p.Sendable) :
    Kept parts (Form.ofParts (parts.map part)) ↔ ∀ p ∈ parts, p.Recognized := by
  have hfiles : ((parts.map part).filterMap Form.file?).map told =
      parts.filterMap fun p => (Form.file? p.part).map told := by
    rw [List.filterMap_map, List.map_filterMap]
    rfl
  have hlost : ∀ p ∈ parts, (Form.file? p.part).map told = p.file? ∨ (Form.file? p.part).map told = none := by
    intro p hp
    by_cases hrecognized : p.Recognized
    · exact .inl (file?_part (h p hp) hrecognized)
    · rw [file?_part_of_not_recognized hrecognized]
      exact .inr rfl
  constructor
  · rintro ⟨-, hkept⟩
    have hall := (filterMap_eq_iff hlost).mp (hfiles.symm.trans hkept)
    exact fun p hp => (file?_part_eq_iff (h p hp)).mp (hall p hp)
  · intro hrecognized
    constructor
    · refine List.filterMap_map.trans (List.filterMap_congr fun p hp => ?_)
      exact field?_part (h p hp) (hrecognized p hp)
    · exact hfiles.trans (List.filterMap_congr fun p hp => file?_part (h p hp) (hrecognized p hp))

end UploadPart

namespace Draft

open UploadPart (Kept part)

variable {d : Draft} {r : Request} {parts : List UploadPart}

theorem exists_form_of_upload (rules : FormRules) (h : d.build = .ok r)
    (hcarries : FormRules.carriesForm rules.alsoPosted d.method = true) (hsendable : ∀ p ∈ parts, p.Sendable)
    (hroom : parts.length ≤ rules.maxParts) (hsmall : (uploadBody parts).length ≤ rules.maxBytes) :
    ∃ r', (d.withUpload parts).build = .ok r' ∧
      rules.form r' none = .ok (Form.ofParts (parts.map part), some (Form.ofParts (parts.map part))) := by
  have hvalue : headerValue ("multipart/form-data; boundary=" ++ boundary) =
      .ok (Text.utf8 ("multipart/form-data; boundary=" ++ boundary)) := by decide +kernel
  have hvisible : Message.visibleText? (Text.utf8 ("multipart/form-data; boundary=" ++ boundary)) =
      some ("multipart/form-data; boundary=" ++ boundary) := by decide +kernel
  have hboundary : Multipart.boundaryOf ("multipart/form-data; boundary=" ++ boundary) = .ok boundary := by
    decide +kernel
  obtain ⟨r', hbuild, hmethod, hbody, htype⟩ := exists_build_withContent h (uploadBody parts) hvalue
  have hheader : (r'.header? "content-type").getD "" = "multipart/form-data; boundary=" ++ boundary := by
    unfold Request.header? Headers.text?
    rw [htype, Option.bind_some, hvisible, Option.getD_some]
  have hform : rules.readForm r' = .ok (Form.ofParts (parts.map part)) := by
    refine FormRules.readForm_of_parts (hmethod ▸ hcarries) (hbody ▸ hsmall) (hheader ▸ hboundary) ?_
    rw [hbody]
    exact UploadPart.readParts_uploadBody hsendable hroom
  refine ⟨r', hbuild, ?_⟩
  rw [FormRules.run_form, FormRules.found, hform]
  rfl

/-- A form with files is read as it was sent if and only if no file stands under a doubled name. -/
theorem upload_kept_iff (rules : FormRules) (h : d.build = .ok r)
    (hcarries : FormRules.carriesForm rules.alsoPosted d.method = true) (hsendable : ∀ p ∈ parts, p.Sendable)
    (hroom : parts.length ≤ rules.maxParts) (hsmall : (uploadBody parts).length ≤ rules.maxBytes) :
    ∃ r' form, (d.withUpload parts).build = .ok r' ∧ rules.form r' none = .ok (form, some form) ∧
      (Kept parts form ↔ ∀ p ∈ parts, p.Recognized) := by
  obtain ⟨r', hbuild, hform⟩ := exists_form_of_upload rules h hcarries hsendable hroom hsmall
  exact ⟨r', _, hbuild, hform, UploadPart.kept_ofParts_iff hsendable⟩

def posting : Draft := { method := "POST", uri := "/receipts" }

def posted : Request where
  method := "POST"
  uri := ⟨none, "", "/receipts", none⟩
  headers := .empty
  body := []

theorem build_posting : posting.build = .ok posted :=
  build_eq_ok_iff.mpr ⟨rfl, posted.uri, .empty, by decide +kernel, rfl, rfl⟩

def receipt : List UploadPart :=
  [.text "title" "--heron-test-boundary--\r\n--heron-test-",
    .file "receipt" "r.txt" "text/plain; charset=utf-8" [45, 45, 0, 255, 13, 10, 45, 45], .text "title" ""]

theorem tight_plain {params : List Char} (h : ContentType.Params params) :
    ContentType.Tight ("text".toList ++ '/' :: ("plain".toList ++ params)) := by
  have hall : ("text".toList ++ "plain".toList).all (fun c => Message.isTokenChar c && c.toLower == c) = true := by
    decide
  refine .intro (by decide) (by decide) (fun c hc => ?_) h
  simpa using List.all_eq_true.mp hall c hc

theorem sendable_receipt : ∀ p ∈ receipt, p.Sendable := by
  have hblank : ∀ c ∈ [' '], c = ' ' := List.forall_mem_singleton.mpr rfl
  have hname : "charset".toList ≠ [] := by decide
  have hvalue : "utf-8".toList ≠ [] := by decide
  have htoken : ∀ c ∈ "charset".toList ++ "utf-8".toList, Message.isTokenChar c = true :=
    List.all_eq_true.mp (by decide)
  have htype : ContentType.Tight "text/plain; charset=utf-8".toList :=
    tight_plain (.token hblank hname hvalue htoken .nil)
  simp only [receipt, List.forall_mem_cons]
  exact ⟨.text (List.all_eq_true.mp (by decide)) (by decide) (by decide +kernel),
    .file (List.all_eq_true.mp (by decide)) (List.all_eq_true.mp (by decide)) htype (by decide +kernel),
    .text (List.all_eq_true.mp (by decide)) (by decide) (by decide +kernel), fun _ hp => (nomatch hp)⟩

theorem receipt_kept : (∀ p ∈ receipt, p.Sendable) ∧ (∀ p ∈ receipt, p.Recognized) ∧
    ∃ r form, (posting.withUpload receipt).build = .ok r ∧ ({} : FormRules).form r none = .ok (form, some form) ∧
      Kept receipt form := by
  obtain ⟨r, form, hbuild, hform, hkept⟩ := upload_kept_iff {} build_posting rfl sendable_receipt (by decide)
    (by decide +kernel)
  have hrecognized : ∀ p ∈ receipt, p.Recognized := by decide +kernel
  exact ⟨sendable_receipt, hrecognized, r, form, hbuild, hform, hkept.mpr hrecognized⟩

def doubled : UploadPart := .file "filenamefilename" "r.txt" "text/plain" (Text.utf8 "hello")

/-- A file under a doubled name comes back among the texts. -/
theorem doubled_taken_for_text : doubled.Sendable ∧ ∃ r form, (posting.withUpload [doubled]).build = .ok r ∧
    ({} : FormRules).form r none = .ok (form, some form) ∧
    form = ⟨[("filenamefilename", "hello")], []⟩ ∧ ¬Kept [doubled] form := by
  have hsendable : doubled.Sendable := .file (List.all_eq_true.mp (by decide)) (List.all_eq_true.mp (by decide))
    (tight_plain .nil) (by decide +kernel)
  have hall : ∀ p ∈ [doubled], p.Sendable := List.forall_mem_singleton.mpr hsendable
  obtain ⟨r, hbuild, hform⟩ := exists_form_of_upload {} build_posting rfl hall (by decide) (by decide +kernel)
  refine ⟨hsendable, r, _, hbuild, hform, by decide +kernel, fun hkept => ?_⟩
  have hlost : ¬doubled.Recognized := by decide +kernel
  exact hlost ((UploadPart.kept_ofParts_iff hall).mp hkept doubled List.mem_cons_self)

end Draft

end Accord.Trial
