import Accord.Proofs.Body
import Accord.Proofs.ContentTypes
import Accord.Proofs.Multipart.Parts
import Accord.Proofs.Trial.Drafts

namespace Accord.Trial

open Multipart (newline dashes isWordByte HeaderValue)

def isNameChar (c : Char) : Bool := c.isAlphanum || c == '-' || c == '_' || c == '.'

namespace UploadPart

variable {name filename value contentType : String} {content : Bytes} {p : UploadPart} {parts : List UploadPart}

def delimiter : Bytes := newline ++ dashes ++ Text.utf8 boundary

inductive Sendable : UploadPart → Prop
  | text {name value : String} (hname : ∀ c ∈ name.toList, isNameChar c = true)
      (hmark : value.toList.head? ≠ some Text.mark) (hdata : ¬delimiter <:+: Text.utf8 value) :
      Sendable (.text name value)
  | file {name filename contentType : String} {content : Bytes} (hname : ∀ c ∈ name.toList, isNameChar c = true)
      (hfilename : ∀ c ∈ filename.toList, isNameChar c = true) (htype : ContentType.Tight contentType.toList)
      (hdata : ¬delimiter <:+: content) : Sendable (.file name filename contentType content)

/-- A name that holds the name of an attribute twice in a row. -/
def Doubled (name : String) : Prop := Text.utf8 "filename" ++ Text.utf8 "filename" <:+: Text.utf8 name

instance (name : String) : Decidable (Doubled name) := inferInstanceAs (Decidable (_ <:+: _))

theorem utf8_name : Text.utf8 "name" = [110, 97, 109, 101] := Text.utf8_of_ascii (by decide)

theorem utf8_filename : Text.utf8 "filename" = [102, 105, 108, 101, 110, 97, 109, 101] :=
  Text.utf8_of_ascii (by decide)

theorem utf8_disposition : Text.utf8 "Content-Disposition" =
    [67, 111, 110, 116, 101, 110, 116, 45, 68, 105, 115, 112, 111, 115, 105, 116, 105, 111, 110] :=
  Text.utf8_of_ascii (by decide)

theorem utf8_type : Text.utf8 "Content-Type" = [67, 111, 110, 116, 101, 110, 116, 45, 84, 121, 112, 101] :=
  Text.utf8_of_ascii (by decide)

theorem utf8_formData : Text.utf8 "form-data; name=" =
    [102, 111, 114, 109, 45, 100, 97, 116, 97, 59, 32, 110, 97, 109, 101, 61] :=
  Text.utf8_of_ascii (by decide)

theorem utf8_andFilename : Text.utf8 "; filename=" = [59, 32, 102, 105, 108, 101, 110, 97, 109, 101, 61] :=
  Text.utf8_of_ascii (by decide)

theorem utf8_boundary : Text.utf8 boundary =
    [104, 101, 114, 111, 110, 45, 116, 101, 115, 116, 45, 98, 111, 117, 110, 100, 97, 114, 121] :=
  Text.utf8_of_ascii (by decide)

def fieldName : UploadPart → String
  | text name _ => name
  | file name .. => name

def filename? : UploadPart → Option String
  | text .. => none
  | file _ filename _ _ => some filename

def behindName (p : UploadPart) : Bytes :=
  p.filename?.elim [] fun filename => Text.utf8 "; filename=" ++ 34 :: (Text.utf8 filename ++ [34])

def disposition (p : UploadPart) : Bytes :=
  Text.utf8 "form-data; name=" ++ 34 :: (Text.utf8 p.fieldName ++ 34 :: p.behindName)

def block (p : UploadPart) : Bytes :=
  Text.utf8 "Content-Disposition" ++ 58 :: 32 :: (p.disposition ++
    match p with
    | text .. => []
    | file _ _ contentType _ => 13 :: 10 :: (Text.utf8 "Content-Type" ++ 58 :: 32 :: Text.utf8 contentType))

theorem bytes_eq (p : UploadPart) : p.bytes =
    dashes ++ (Text.utf8 boundary ++ (newline ++ (p.block ++ ((newline ++ newline) ++ (p.data ++ newline))))) := by
  have hdashes : Text.utf8 "--" = dashes := Text.utf8_of_ascii (by decide)
  have hname : Text.utf8 "\r\nContent-Disposition: form-data; name=\"" =
      newline ++ (Text.utf8 "Content-Disposition" ++ 58 :: 32 :: (Text.utf8 "form-data; name=" ++ [34])) := by
    rw [utf8_disposition, utf8_formData]
    exact Text.utf8_of_ascii (by decide)
  have hend : Text.utf8 "\"\r\n\r\n" = 34 :: (newline ++ newline) := Text.utf8_of_ascii (by decide)
  have hfilename : Text.utf8 "\"; filename=\"" = 34 :: (Text.utf8 "; filename=" ++ [34]) := by
    rw [utf8_andFilename]
    exact Text.utf8_of_ascii (by decide)
  have htype : Text.utf8 "\"\r\nContent-Type: " = 34 :: 13 :: 10 :: (Text.utf8 "Content-Type" ++ [58, 32]) := by
    rw [utf8_type]
    exact Text.utf8_of_ascii (by decide)
  have hblank : Text.utf8 "\r\n\r\n" = newline ++ newline := Text.utf8_of_ascii (by decide)
  cases p with
  | text name value =>
    simp only [bytes, head, data, block, disposition, behindName, fieldName, filename?, Option.elim, Text.utf8_append,
      hdashes, hname, hend]
    simp [newline]
  | file name filename contentType content =>
    simp only [bytes, head, data, block, disposition, behindName, fieldName, filename?, Option.elim, Text.utf8_append,
      hdashes, hname, hfilename, htype, hblank]
    simp [newline]

def bodyAfter : List UploadPart → Bytes
  | [] => dashes ++ newline
  | p :: parts => newline ++ (p.block ++ ((newline ++ newline) ++ (p.data ++ (delimiter ++ bodyAfter parts))))

theorem uploadBody_eq (parts : List UploadPart) :
    uploadBody parts = (dashes ++ Text.utf8 boundary) ++ bodyAfter parts := by
  induction parts with
  | nil =>
    have hend : uploadBody [] = Text.utf8 ("--" ++ boundary ++ "--\r\n") := rfl
    rw [hend, utf8_boundary]
    exact Text.utf8_of_ascii (by decide)
  | cons p parts ih =>
    have hbody : uploadBody (p :: parts) = p.bytes ++ uploadBody parts := by simp [uploadBody]
    rw [hbody, ih, bytes_eq]
    simp [bodyAfter, delimiter]

theorem isTokenChar_of_isNameChar {c : Char} (h : isNameChar c = true) : Message.isTokenChar c = true := by
  simp only [isNameChar, Bool.or_eq_true, beq_iff_eq] at h
  rcases h with ((h | rfl) | rfl) | rfl
  · exact Bool.or_eq_true_iff.mpr (.inl h)
  all_goals decide

theorem shown_of_name (h : ∀ c ∈ name.toList, isNameChar c = true) : ∀ c ∈ name.toList, ContentType.Shown c :=
  fun c hc => (ContentType.shown_of_isTokenChar (isTokenChar_of_isNameChar (h c hc))).1

theorem isWordByte_of_name (h : ∀ c ∈ name.toList, isNameChar c = true) :
    ∀ b ∈ Text.utf8 name, isWordByte b = true := by
  have hall : ∀ n < 128, isNameChar (Char.ofNat n) = true → isWordByte (UInt8.ofNat (Char.ofNat n).toNat) = true := by
    decide +kernel
  rw [ContentType.utf8_of_shown (shown_of_name h)]
  intro b hb
  obtain ⟨c, hc, rfl⟩ := List.mem_map.mp hb
  exact Text.forall_ascii (P := fun c => isNameChar c = true → isWordByte (UInt8.ofNat c.toNat) = true) hall
    (Nat.lt_succ_of_lt (shown_of_name h c hc).2) (h c hc)

theorem Sendable.fieldName (h : p.Sendable) : ∀ c ∈ p.fieldName.toList, isNameChar c = true := by
  cases h <;> assumption

theorem isShownByte_disposition (h : p.Sendable) : ∀ b ∈ p.disposition, ContentType.isShownByte b = true := by
  have hstart : ∀ b ∈ Text.utf8 "form-data; name=", ContentType.isShownByte b = true := by
    rw [utf8_formData]
    exact List.all_eq_true.mp (by decide)
  have hquote : ContentType.isShownByte 34 = true := by decide
  have hname := ContentType.isShownByte_of_shown (shown_of_name h.fieldName)
  have hbehind : ∀ b ∈ p.behindName, ContentType.isShownByte b = true := by
    cases h with
    | text => exact fun _ hb => (nomatch hb)
    | file _ hfilename _ _ =>
      have hlabel : ∀ b ∈ Text.utf8 "; filename=", ContentType.isShownByte b = true := by
        rw [utf8_andFilename]
        exact List.all_eq_true.mp (by decide)
      simp only [behindName, filename?, Option.elim, List.forall_mem_append, List.forall_mem_cons]
      exact ⟨hlabel, hquote, ContentType.isShownByte_of_shown (shown_of_name hfilename), hquote,
        fun _ hb => (nomatch hb)⟩
  simp only [disposition, List.forall_mem_append, List.forall_mem_cons]
  exact ⟨hstart, hquote, hname, hquote, hbehind⟩

theorem headerValue_disposition (h : p.Sendable) : HeaderValue p.disposition where
  bytes := fun b hb => (ContentType.of_isShownByte b (isShownByte_disposition h b hb)).1
  front := by
    intro b hb
    rw [disposition, utf8_formData] at hb
    cases hb
    decide
  back := by
    have hback : ∃ front, p.disposition = front ++ [34] := by
      cases p with
      | text name value =>
        refine ⟨Text.utf8 "form-data; name=" ++ 34 :: Text.utf8 name, ?_⟩
        simp [disposition, behindName, filename?, UploadPart.fieldName]
      | file name filename contentType content =>
        refine ⟨Text.utf8 "form-data; name=" ++ 34 :: (Text.utf8 name ++ 34 :: (Text.utf8 "; filename=" ++ 34 ::
          Text.utf8 filename)), ?_⟩
        simp [disposition, behindName, filename?, UploadPart.fieldName]
    obtain ⟨front, hfront⟩ := hback
    intro b hb
    rw [hfront, List.getLast?_concat] at hb
    cases hb
    decide

theorem headerValue_contentType (h : ContentType.Tight contentType.toList) :
    HeaderValue (Text.utf8 contentType) := by
  obtain ⟨hshown, hfront, hback⟩ := h.shown
  have hblank : ∀ n < 128, Char.ofNat n ≠ ' ' → ContentType.Shown (Char.ofNat n) →
      Multipart.isBlank (UInt8.ofNat (Char.ofNat n).toNat) = false := by
    unfold ContentType.Shown
    decide +kernel
  have hchar : ∀ c ∈ contentType.toList, c ≠ ' ' → Multipart.isBlank (UInt8.ofNat c.toNat) = false := fun c hc hne =>
    Text.forall_ascii
      (P := fun c => c ≠ ' ' → ContentType.Shown c → Multipart.isBlank (UInt8.ofNat c.toNat) = false) hblank
      (Nat.lt_succ_of_lt (hshown c hc).2) hne (hshown c hc)
  constructor
  · exact fun b hb => (ContentType.of_isShownByte b (ContentType.isShownByte_of_shown hshown b hb)).1
  · rw [ContentType.utf8_of_shown hshown]
    intro b hb
    rw [List.head?_map] at hb
    obtain ⟨c, hc, rfl⟩ := Option.map_eq_some_iff.mp hb
    exact hchar c (List.mem_of_mem_head? hc) (hfront c hc)
  · rw [ContentType.utf8_of_shown hshown]
    intro b hb
    rw [List.getLast?_map] at hb
    obtain ⟨c, hc, rfl⟩ := Option.map_eq_some_iff.mp hb
    exact hchar c (List.mem_of_getLast? hc) (hback c hc)

def headers (p : UploadPart) : Named Bytes :=
  ("content-disposition", p.disposition) ::
    match p with
    | text .. => []
    | file _ _ contentType _ => [("content-type", Text.utf8 contentType)]

theorem readHeaders_block (h : p.Sendable) :
    Multipart.readHeaders Multipart.headerLimit [] (p.block ++ newline ++ newline) = some p.headers := by
  have hname : Multipart.lowered (Text.utf8 "Content-Disposition") = "content-disposition" := by
    rw [utf8_disposition]
    rfl
  have htype : Multipart.lowered (Text.utf8 "Content-Type") = "content-type" := by
    rw [utf8_type]
    rfl
  have hne : Text.utf8 "Content-Disposition" ≠ [] := by
    rw [utf8_disposition]
    exact List.cons_ne_nil _ _
  have hne' : Text.utf8 "Content-Type" ≠ [] := by
    rw [utf8_type]
    exact List.cons_ne_nil _ _
  have htoken : ∀ b ∈ Text.utf8 "Content-Disposition", Multipart.isTokenByte b = true := by
    rw [utf8_disposition]
    exact List.all_eq_true.mp (by decide)
  have htoken' : ∀ b ∈ Text.utf8 "Content-Type", Multipart.isTokenByte b = true := by
    rw [utf8_type]
    exact List.all_eq_true.mp (by decide)
  have hlimit : Multipart.headerLimit = 30 + 1 + 1 := rfl
  have hdisposition := headerValue_disposition h
  cases h with
  | @text name value =>
    have hblock : (text name value).block ++ newline ++ newline =
        Text.utf8 "Content-Disposition" ++ 58 :: 32 :: ((text name value).disposition ++ 13 :: 10 :: newline) := by
      simp [block, newline]
    rw [hblock, hlimit, Multipart.readHeaders_line hne htoken hdisposition, hname]
    rfl
  | @file name filename contentType content _ _ htype' =>
    have hblock : (file name filename contentType content).block ++ newline ++ newline =
        Text.utf8 "Content-Disposition" ++ 58 :: 32 :: ((file name filename contentType content).disposition ++ 13 ::
          10 :: (Text.utf8 "Content-Type" ++ 58 :: 32 :: (Text.utf8 contentType ++ 13 :: 10 :: newline))) := by
      simp [block, newline]
    rw [hblock, hlimit, Multipart.readHeaders_line hne htoken hdisposition, hname,
      Multipart.readHeaders_line hne' htoken' (headerValue_contentType htype'), htype]
    rfl

theorem not_infix_block (h : p.Sendable) :
    ¬newline ++ newline <:+: p.block ++ (newline ++ newline).dropLast := by
  have hreturn : ∀ {value : Bytes}, (∀ b ∈ value, ContentType.isShownByte b = true) → 13 ∉ value := fun h hmem =>
    (ContentType.of_isShownByte 13 (h 13 hmem)).2.1 rfl
  have hline : 13 ∉ Text.utf8 "Content-Disposition" ++ 58 :: 32 :: p.disposition := by
    rw [utf8_disposition]
    simp [hreturn (isShownByte_disposition h)]
  cases h with
  | @text name value =>
    have hblock : (text name value).block ++ (newline ++ newline).dropLast =
        (Text.utf8 "Content-Disposition" ++ 58 :: 32 :: (text name value).disposition) ++ [13, 10, 13] := by
      simp [block, newline]
    rw [hblock]
    exact (Multipart.infix_append_of_not_mem hline).not.mpr (by decide)
  | @file name filename contentType content _ _ htype =>
    have hline' : 13 ∉ Text.utf8 "Content-Type" ++ 58 :: 32 :: Text.utf8 contentType := by
      rw [utf8_type]
      simp [hreturn (ContentType.isShownByte_of_shown htype.shown.1)]
    have hblock : (file name filename contentType content).block ++ (newline ++ newline).dropLast =
        (Text.utf8 "Content-Disposition" ++ 58 :: 32 :: (file name filename contentType content).disposition) ++
          13 :: 10 :: ((Text.utf8 "Content-Type" ++ 58 :: 32 :: Text.utf8 contentType) ++ [13, 10, 13]) := by
      simp [block, newline]
    rw [hblock]
    rw [utf8_type] at hline' ⊢
    exact Multipart.not_infix_line hline (by decide) ((Multipart.infix_append_of_not_mem hline').not.mpr (by decide))

theorem findAttribute?_name (h : p.Sendable) :
    Multipart.findAttribute? (p.disposition.length + 1) (Text.utf8 "name") p.disposition = some p.fieldName := by
  have hformData : Text.utf8 "form-data;" = [102, 111, 114, 109, 45, 100, 97, 116, 97, 59] :=
    Text.utf8_of_ascii (by decide)
  have hne : Text.utf8 "name" ≠ [] := by
    rw [utf8_name]
    exact List.cons_ne_nil _ _
  have hblank : 32 ∉ Text.utf8 "name" := by
    rw [utf8_name]
    decide
  have hstart : Text.utf8 "form-data; name=" = Text.utf8 "form-data;" ++ 32 :: (Text.utf8 "name" ++ [61]) := by
    rw [utf8_formData, hformData, utf8_name]
    rfl
  have hnone : Multipart.cutAt? (Text.utf8 "name") (Text.utf8 "form-data;") = none := by
    rw [utf8_name, hformData]
    rfl
  have hdisposition : p.disposition = Text.utf8 "form-data;" ++ 32 :: (Text.utf8 "name" ++
      (61 :: 34 :: (Text.utf8 p.fieldName ++ 34 :: p.behindName))) := by
    rw [disposition, hstart]
    simp
  have hlast : (Text.utf8 "form-data;" ++ [32]).getLast? = some 32 := List.getLast?_concat
  rw [Multipart.findAttribute?_succ, hdisposition, Multipart.cutAt?_append_cons hne hblank, hnone]
  simp only [Multipart.cutAt?_front hne, Option.map_some, Option.bind_some, hlast, Option.all_some]
  rw [if_pos (by decide), Multipart.attributeValue?_quoted (isWordByte_of_name h.fieldName), Option.bind_some,
    Text.ofUtf8?_utf8]

theorem cutAt?_behindName (p : UploadPart) : Multipart.cutAt? (Text.utf8 "filename") p.behindName =
    p.filename?.map fun filename => ([59, 32], 61 :: 34 :: (Text.utf8 filename ++ [34])) := by
  have hne : Text.utf8 "filename" ≠ [] := by
    rw [utf8_filename]
    exact List.cons_ne_nil _ _
  cases p with
  | text => exact Multipart.cutAt?_nil hne
  | file name filename contentType content =>
    have hblank : 32 ∉ Text.utf8 "filename" := by
      rw [utf8_filename]
      decide
    have hlabel : Text.utf8 "; filename=" = [59] ++ 32 :: (Text.utf8 "filename" ++ [61]) := by
      rw [utf8_andFilename, utf8_filename]
      rfl
    have hsemicolon : Multipart.cutAt? (Text.utf8 "filename") [59] = none := by
      rw [utf8_filename]
      rfl
    have hbehind : (file name filename contentType content).behindName =
        [59] ++ 32 :: (Text.utf8 "filename" ++ (61 :: 34 :: (Text.utf8 filename ++ [34]))) := by
      simp [behindName, filename?, hlabel]
    rw [hbehind, Multipart.cutAt?_append_cons hne hblank, hsemicolon]
    simp only [Multipart.cutAt?_front hne]
    rfl

theorem findAttribute?_filename (h : p.Sendable) :
    Multipart.findAttribute? (p.disposition.length + 1) (Text.utf8 "filename") p.disposition =
      if Doubled p.fieldName then none else p.filename? := by
  have hhead : 102 ∉ ([105, 108, 101, 110, 97, 109, 101] : Bytes) := by decide
  have hquote : 34 ∉ (102 :: [105, 108, 101, 110, 97, 109, 101] : Bytes) := by decide
  have hstart : Multipart.cutAt? (102 :: [105, 108, 101, 110, 97, 109, 101]) (Text.utf8 "form-data; name=") = none := by
    rw [utf8_formData]
    rfl
  have hlength : (Text.utf8 p.fieldName).length < p.disposition.length := by
    simp only [disposition, List.length_append, List.length_cons]
    omega
  have hrest : ∀ cut, Multipart.cutAt? (Text.utf8 "filename") p.behindName = some cut → cut.1.getLast? = some 32 := by
    intro cut hcut
    rw [cutAt?_behindName] at hcut
    obtain ⟨_, -, rfl⟩ := Option.map_eq_some_iff.mp hcut
    rfl
  have hsearch := Multipart.findAttribute?_quoted hhead hquote hstart (isWordByte_of_name h.fieldName)
    (utf8_filename ▸ hrest) hlength
  rw [← utf8_filename, cutAt?_behindName] at hsearch
  have hfound : (p.filename?.map fun filename => (([59, 32] : Bytes), 61 :: 34 :: (Text.utf8 filename ++ [34]))).bind
      (fun cut => (Multipart.attributeValue? cut.2).bind Text.ofUtf8?) = p.filename? := by
    cases h with
    | text => rfl
    | file _ hfilename =>
      simp only [filename?, Option.map_some, Option.bind_some,
        Multipart.attributeValue?_quoted (isWordByte_of_name hfilename), Text.ofUtf8?_utf8]
  rw [hfound] at hsearch
  exact hsearch

def info (p : UploadPart) : Multipart.PartInfo where
  name := some p.fieldName
  filename := if Doubled p.fieldName then none else p.filename?
  contentType :=
    match p with
    | text .. => none
    | file _ _ contentType _ => ContentType.read? contentType

theorem ofHeaders_headers (h : p.Sendable) : Multipart.PartInfo.ofHeaders p.headers = p.info := by
  have hfound : p.headers.lookup "content-disposition" = some p.disposition := rfl
  have htype : ((p.headers.lookup "content-type").bind Message.visibleText?).bind ContentType.read? =
      p.info.contentType := by
    cases h with
    | text => rfl
    | @file name filename contentType content _ _ htype =>
      have hvisible := ContentType.visibleText?_utf8 htype.shown.1
      change ((some (Text.utf8 contentType)).bind Message.visibleText?).bind ContentType.read? = _
      rw [Option.bind_some, hvisible]
      rfl
  unfold Multipart.PartInfo.ofHeaders
  rw [hfound]
  simp only [Option.bind_some, findAttribute?_name h, findAttribute?_filename h, htype]
  rfl

def part (p : UploadPart) : Multipart.Part := ⟨p.info, p.data⟩

/-- Reading the body of parts gives each of them. -/
theorem partsAfter_bodyAfter {limit : Nat} (h : ∀ p ∈ parts, p.Sendable) (read : List Multipart.Part)
    (hroom : read.length + parts.length ≤ limit) :
    Multipart.partsAfter (Text.utf8 boundary) limit read (bodyAfter parts) = .ok (read ++ parts.map part) := by
  induction parts generalizing read with
  | nil =>
    rw [List.map_nil, List.append_nil]
    exact Multipart.partsAfter_end _ _ _ newline
  | cons p parts ih =>
    obtain ⟨hp, hparts⟩ := List.forall_mem_cons.mp h
    have hboundary : 13 ∉ Text.utf8 boundary := by
      rw [utf8_boundary]
      decide
    have hdata : ¬delimiter <:+: p.data := by cases hp <;> assumption
    rw [List.length_cons] at hroom
    have hnext : read.length < limit := by omega
    have hstep := Multipart.partsAfter_part (not_infix_block hp) (readHeaders_block hp) hboundary hdata hnext
      (bodyAfter parts)
    rw [ofHeaders_headers hp] at hstep
    refine hstep.trans ((ih hparts _ (by rw [List.length_append, List.length_singleton]; omega)).trans ?_)
    rw [List.append_assoc]
    rfl

theorem readParts_uploadBody {limit : Nat} (h : ∀ p ∈ parts, p.Sendable) (hroom : parts.length ≤ limit) :
    Multipart.readParts (Text.utf8 boundary) limit (uploadBody parts) = .ok (parts.map part) := by
  have hcut : Multipart.cutAt? (dashes ++ Text.utf8 boundary) (uploadBody parts) = some ([], bodyAfter parts) := by
    rw [uploadBody_eq]
    exact Multipart.cutAt?_front (List.cons_ne_nil _ _) _
  unfold Multipart.readParts
  rw [hcut]
  exact partsAfter_bodyAfter h [] (by simpa using hroom)

end UploadPart

end Accord.Trial
