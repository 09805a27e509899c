import Accord.Body.ContentType
import Accord.Proofs.Bytes
import Accord.Proofs.Message.Headers

namespace Accord.ContentType

open Message (isTokenChar)

variable {text : String} {name value word rest : List Char} {c : Char}

def isQuotable (c : Char) : Bool := 31 < c.toNat && c.toNat < 127 && c != '"'

/-- Parameters that are written tightly. -/
inductive Params : List Char → Prop
  | nil : Params []
  | semicolon : Params [';']
  | token {blanks name value rest : List Char} (hblanks : ∀ c ∈ blanks, c = ' ') (hname : name ≠ [])
      (hvalue : value ≠ []) (htoken : ∀ c ∈ name ++ value, isTokenChar c = true) :
      Params rest → Params (';' :: (blanks ++ (name ++ '=' :: (value ++ rest))))
  | quoted {blanks name value rest : List Char} (hblanks : ∀ c ∈ blanks, c = ' ') (hname : name ≠ [])
      (hvalue : value ≠ []) (htoken : ∀ c ∈ name, isTokenChar c = true) (hquotable : ∀ c ∈ value, isQuotable c = true) :
      Params rest → Params (';' :: (blanks ++ (name ++ '=' :: '"' :: (value ++ '"' :: rest))))

/-- A type and a subtype in lower case, with parameters. -/
inductive Tight : List Char → Prop
  | intro {main sub params : List Char} (hmain : main ≠ []) (hsub : sub ≠ [])
      (htoken : ∀ c ∈ main ++ sub, isTokenChar c = true ∧ c.toLower = c) :
      Params params → Tight (main ++ '/' :: (sub ++ params))

def declared (text : String) : String := String.ofList (text.toList.takeWhile (· != ';'))

theorem ne_of_isTokenChar {d : Char} (h : isTokenChar c = true) (hd : isTokenChar d = false) : c ≠ d := by
  rintro rfl
  rw [h] at hd
  cases hd

theorem takeWhile_params (hword : ∀ c ∈ word, isTokenChar c = true) (hrest : Params rest) :
    (word ++ rest).takeWhile isTokenChar = word ∧ (word ++ rest).dropWhile isTokenChar = rest := by
  cases hrest with
  | nil =>
    rw [List.append_nil]
    exact ⟨List.takeWhile_eq_self_iff.mpr hword, List.dropWhile_eq_nil_iff.mpr hword⟩
  | semicolon => exact ⟨Text.takeWhile_append_cons hword (by decide) _, Text.dropWhile_append_cons hword (by decide) _⟩
  | token => exact ⟨Text.takeWhile_append_cons hword (by decide) _, Text.dropWhile_append_cons hword (by decide) _⟩
  | quoted => exact ⟨Text.takeWhile_append_cons hword (by decide) _, Text.dropWhile_append_cons hword (by decide) _⟩

theorem readToken_append (hne : word ≠ []) (hword : ∀ c ∈ word, isTokenChar c = true ∧ c.toLower = c)
    (htake : (word ++ rest).takeWhile isTokenChar = word) (hdrop : (word ++ rest).dropWhile isTokenChar = rest) :
    readToken (word ++ rest) = some (String.ofList word, rest) := by
  have hlower : word.map Char.toLower = word := (List.map_congr_left fun c hc => (hword c hc).2).trans (List.map_id _)
  unfold readToken
  simp [htake, hdrop, hne, hlower]

/-- What `readValue` leaves of parameters: what stands behind their semicolon. -/
theorem readValue_token (hvalue : value ≠ []) (htoken : ∀ c ∈ value, isTokenChar c = true) (hrest : Params rest) :
    readValue (value ++ rest) = some (value, rest.drop 1) := by
  obtain ⟨htake, hdrop⟩ := takeWhile_params htoken hrest
  obtain ⟨c, value, rfl⟩ := List.exists_cons_of_ne_nil hvalue
  have hquote : c ≠ '"' := ne_of_isTokenChar (htoken c List.mem_cons_self) (by decide)
  unfold readValue
  split
  · next h => exact absurd (List.cons.inj h).1 hquote
  · simp only [htake, hdrop]
    cases hrest <;> rfl

theorem readValue_quoted (hvalue : value ≠ []) (hquotable : ∀ c ∈ value, isQuotable c = true) (hrest : Params rest) :
    readValue ('"' :: (value ++ '"' :: rest)) = some (value, rest.drop 1) := by
  obtain ⟨c, value, rfl⟩ := List.exists_cons_of_ne_nil hvalue
  have hinside : ∀ c, isQuotable c = true → (decide (31 < c.toNat) && c.toNat != 127) = true ∧ (c != '"') = true := by
    intro c h
    simp only [isQuotable, Bool.and_eq_true, decide_eq_true_eq] at h
    obtain ⟨⟨hlow, hhigh⟩, hquote⟩ := h
    exact ⟨Bool.and_eq_true_iff.mpr ⟨decide_eq_true hlow, bne_iff_ne.mpr (by omega)⟩, hquote⟩
  obtain ⟨hc, hvalue⟩ := List.forall_mem_cons.mp hquotable
  have hall : ∀ c ∈ value, (c != '"' && (decide (31 < c.toNat) && c.toNat != 127)) = true := fun c hc =>
    Bool.and_eq_true_iff.mpr ⟨(hinside c (hvalue c hc)).2, (hinside c (hvalue c hc)).1⟩
  have hread : readQuoted (c :: (value ++ '"' :: rest)) = some (c :: value, rest) := by
    unfold readQuoted
    dsimp only
    rw [Text.takeWhile_append_cons hall (by decide), Text.dropWhile_append_cons hall (by decide)]
    simp [(hinside c hc).1]
  change (readQuoted (c :: (value ++ '"' :: rest))).bind _ = _
  rw [hread]
  cases hrest <;> rfl

theorem readParams_member {blanks after : List Char} (hblanks : ∀ c ∈ blanks, c = ' ') (hname : name ≠ [])
    (htoken : ∀ c ∈ name, isTokenChar c = true) (hvalue : readValue after = some (value, rest)) {fuel : Nat}
    {pairs : List (String × String)} (hrest : readParams fuel rest = some pairs) :
    ∃ pairs, readParams (fuel + 1) (blanks ++ (name ++ '=' :: after)) = some pairs := by
  obtain ⟨c, name, rfl⟩ := List.exists_cons_of_ne_nil hname
  have hc : (c == ' ') = false := beq_eq_false_iff_ne.mpr (ne_of_isTokenChar (htoken c List.mem_cons_self) (by decide))
  have hdrop : (blanks ++ (c :: name ++ '=' :: after)).dropWhile (· == ' ') = c :: name ++ '=' :: after :=
    Text.dropWhile_append_cons (fun d hd => beq_iff_eq.mpr (hblanks d hd)) hc _
  have htake : (c :: name ++ '=' :: after).takeWhile isTokenChar = c :: name :=
    Text.takeWhile_append_cons htoken (by decide) after
  have hbehind : (c :: name ++ '=' :: after).dropWhile isTokenChar = '=' :: after :=
    Text.dropWhile_append_cons htoken (by decide) after
  unfold readParams
  rw [hdrop]
  split
  · next h => cases h
  · next hzero _ => cases hzero
  · next hfuel _ =>
    cases hfuel
    dsimp only
    rw [htake, hbehind]
    simp [hvalue, hrest]

theorem readParams_of_params {params : List Char} (hparams : Params params) {fuel : Nat}
    (hfuel : params.length ≤ fuel + 1) : ∃ pairs, readParams fuel (params.drop 1) = some pairs := by
  induction hparams generalizing fuel with
  | nil => exact ⟨[], by cases fuel <;> rfl⟩
  | semicolon => exact ⟨[], by cases fuel <;> rfl⟩
  | @token blanks name value rest hblanks hname hvalue htoken hrest ih =>
    cases fuel with
    | zero => simp at hfuel
    | succ fuel =>
      have hless : rest.length ≤ fuel + 1 := by
        simp only [List.length_cons, List.length_append] at hfuel
        omega
      obtain ⟨pairs, hpairs⟩ := ih hless
      exact readParams_member hblanks hname (fun c hc => htoken c (List.mem_append_left _ hc))
        (readValue_token hvalue (fun c hc => htoken c (List.mem_append_right _ hc)) hrest) hpairs
  | @quoted blanks name value rest hblanks hname hvalue htoken hquotable hrest ih =>
    cases fuel with
    | zero => simp at hfuel
    | succ fuel =>
      have hless : rest.length ≤ fuel + 1 := by
        simp only [List.length_cons, List.length_append] at hfuel
        omega
      obtain ⟨pairs, hpairs⟩ := ih hless
      exact readParams_member hblanks hname htoken (readValue_quoted hvalue hquotable hrest) hpairs

theorem read?_of_tokens {main sub params : List Char} (hchars : text.toList = main ++ '/' :: (sub ++ params))
    (hmain : main ≠ []) (hsub : sub ≠ []) (hmain' : ∀ c ∈ main, isTokenChar c = true ∧ c.toLower = c)
    (hsub' : ∀ c ∈ sub, isTokenChar c = true ∧ c.toLower = c) (hparams : Params params) :
    ∃ pairs, read? text = some ⟨String.ofList main, String.ofList sub, pairs⟩ := by
  have hslash : isTokenChar '/' = false := by decide
  have hfirst : readToken (main ++ '/' :: (sub ++ params)) = some (String.ofList main, '/' :: (sub ++ params)) :=
    readToken_append hmain hmain' (Text.takeWhile_append_cons (fun c hc => (hmain' c hc).1) hslash _)
      (Text.dropWhile_append_cons (fun c hc => (hmain' c hc).1) hslash _)
  obtain ⟨htake, hdrop⟩ := takeWhile_params (fun c hc => (hsub' c hc).1) hparams
  have hsecond : readToken (sub ++ params) = some (String.ofList sub, params) :=
    readToken_append hsub hsub' htake hdrop
  obtain ⟨d, sub, rfl⟩ := List.exists_cons_of_ne_nil hsub
  have hfuel : params.length ≤ (params.length - 1) + 1 := by omega
  obtain ⟨pairs, hpairs⟩ := readParams_of_params hparams hfuel
  unfold read?
  rw [hchars, hfirst]
  simp only [Option.bind_eq_bind, Option.bind_some, List.cons_append] at hsecond ⊢
  simp only [hsecond, Option.bind_some]
  cases params with
  | nil => exact ⟨[], rfl⟩
  | cons semicolon params =>
    have hsemicolon : semicolon = ';' := by cases hparams <;> rfl
    subst hsemicolon
    have hpairs' : readParams params.length params = some pairs := hpairs
    refine ⟨pairs, ?_⟩
    simp only [hpairs', Option.bind_some]
    rfl

theorem declared_of_tokens {main sub params : List Char} (hchars : text.toList = main ++ '/' :: (sub ++ params))
    (hmain : ∀ c ∈ main, isTokenChar c = true) (hsub : ∀ c ∈ sub, isTokenChar c = true) (hparams : Params params) :
    declared text = String.ofList (main ++ '/' :: sub) := by
  have hne : ∀ {word : List Char}, (∀ c ∈ word, isTokenChar c = true) → ∀ c ∈ word, (c != ';') = true :=
    fun hword c hc => bne_iff_ne.mpr (ne_of_isTokenChar (hword c hc) (by decide))
  have hstop : ∀ c ∈ main ++ '/' :: sub, (c != ';') = true := by
    rw [List.forall_mem_append, List.forall_mem_cons]
    exact ⟨hne hmain, by decide, hne hsub⟩
  have hassoc : main ++ '/' :: (sub ++ params) = (main ++ '/' :: sub) ++ params := by simp
  rw [declared, hchars, hassoc, List.takeWhile_append_of_pos hstop]
  cases hparams <;> simp

theorem exists_read?_of_tight (h : Tight text.toList) : ∃ c, read? text = some c ∧ c.essence = declared text := by
  generalize hchars : text.toList = chars at h
  cases h with
  | intro hmain hsub htoken hparams =>
    obtain ⟨hmain', hsub'⟩ := List.forall_mem_append.mp htoken
    obtain ⟨pairs, hread⟩ := read?_of_tokens hchars hmain hsub hmain' hsub' hparams
    refine ⟨_, hread, String.toList_inj.mp ?_⟩
    rw [declared_of_tokens hchars (fun c hc => (hmain' c hc).1) (fun c hc => (hsub' c hc).1) hparams]
    simp [essence]

-- a blank before a semicolon is not read, unless a quoted value stands before it
example : read? "text/plain ; charset=utf-8" = none := by decide +kernel

def Shown (c : Char) : Prop := 31 < c.toNat ∧ c.toNat < 127

theorem shown_of_isTokenChar (h : isTokenChar c = true) : Shown c ∧ c ≠ ' ' := by
  have hall : ∀ n < 128, isTokenChar (Char.ofNat n) = true → Shown (Char.ofNat n) ∧ Char.ofNat n ≠ ' ' := by
    unfold Shown
    decide +kernel
  exact Text.forall_ascii (P := fun c => isTokenChar c = true → Shown c ∧ c ≠ ' ') hall
    (Message.toNat_lt_of_isTokenChar h) h

theorem shown_of_isQuotable (h : isQuotable c = true) : Shown c := by
  simp only [isQuotable, Bool.and_eq_true, decide_eq_true_eq] at h
  exact h.1

theorem Params.shown {params : List Char} (h : Params params) : ∀ c ∈ params, Shown c := by
  have hblank : ∀ {blanks : List Char}, (∀ c ∈ blanks, c = ' ') → ∀ c ∈ blanks, Shown c := fun h c hc => by
    rw [h c hc]
    exact ⟨by decide, by decide⟩
  induction h with
  | nil => exact fun _ hc => (nomatch hc)
  | semicolon => exact List.forall_mem_singleton.mpr ⟨by decide, by decide⟩
  | token hblanks _ _ htoken _ ih =>
    obtain ⟨hname, hvalue⟩ := List.forall_mem_append.mp htoken
    simp only [List.forall_mem_cons, List.forall_mem_append]
    exact ⟨⟨by decide, by decide⟩, hblank hblanks, fun c hc => (shown_of_isTokenChar (hname c hc)).1,
      ⟨by decide, by decide⟩, fun c hc => (shown_of_isTokenChar (hvalue c hc)).1, ih⟩
  | quoted hblanks _ _ htoken hquotable _ ih =>
    simp only [List.forall_mem_cons, List.forall_mem_append]
    exact ⟨⟨by decide, by decide⟩, hblank hblanks, fun c hc => (shown_of_isTokenChar (htoken c hc)).1,
      ⟨by decide, by decide⟩, ⟨by decide, by decide⟩, fun c hc => shown_of_isQuotable (hquotable c hc),
      ⟨by decide, by decide⟩, ih⟩

theorem ne_blank_of_getLast?_append (hword : ∀ c ∈ word, c ≠ ' ') (hrest : ∀ c ∈ rest.getLast?, c ≠ ' ') :
    ∀ c ∈ (word ++ rest).getLast?, c ≠ ' ' := by
  intro c hc
  rw [List.getLast?_append] at hc
  cases hlast : rest.getLast? with
  | none =>
    rw [hlast] at hc
    exact hword c (List.mem_of_getLast? hc)
  | some d =>
    rw [hlast] at hc
    exact hrest c (hlast ▸ hc)

theorem ne_blank_of_isTokenChar (hword : ∀ c ∈ word, isTokenChar c = true) : ∀ c ∈ word, c ≠ ' ' := fun c hc =>
  (shown_of_isTokenChar (hword c hc)).2

theorem Params.getLast? {params : List Char} (h : Params params) : ∀ c ∈ params.getLast?, c ≠ ' ' := by
  induction h with
  | nil => exact fun _ hc => (nomatch hc)
  | semicolon =>
    intro c hc
    cases hc
    decide
  | @token blanks name value rest _ _ hvalue htoken _ ih =>
    have hvalue' := ne_blank_of_isTokenChar fun c hc => htoken c (List.mem_append_right _ hc)
    have hsplit : ';' :: (blanks ++ (name ++ '=' :: (value ++ rest))) =
        (';' :: (blanks ++ (name ++ ['=']))) ++ (value ++ rest) := by simp
    rw [hsplit, List.getLast?_append_of_ne_nil _ (List.append_ne_nil_of_left_ne_nil hvalue rest)]
    exact ne_blank_of_getLast?_append hvalue' ih
  | @quoted blanks name value rest _ _ _ _ _ _ ih =>
    have hsplit : ';' :: (blanks ++ (name ++ '=' :: '"' :: (value ++ '"' :: rest))) =
        (';' :: (blanks ++ (name ++ '=' :: '"' :: value))) ++ (['"'] ++ rest) := by simp
    rw [hsplit, List.getLast?_append_of_ne_nil _ (List.append_ne_nil_of_left_ne_nil (List.cons_ne_nil _ _) rest)]
    exact ne_blank_of_getLast?_append (List.forall_mem_singleton.mpr (by decide)) ih

theorem Tight.shown {chars : List Char} (h : Tight chars) :
    (∀ c ∈ chars, Shown c) ∧ (∀ c ∈ chars.head?, c ≠ ' ') ∧ ∀ c ∈ chars.getLast?, c ≠ ' ' := by
  cases h with
  | @intro main sub params hmain hsub htoken hparams =>
    obtain ⟨hmain', hsub'⟩ := List.forall_mem_append.mp htoken
    refine ⟨?_, ?_, ?_⟩
    · simp only [List.forall_mem_cons, List.forall_mem_append]
      exact ⟨fun c hc => (shown_of_isTokenChar (hmain' c hc).1).1, ⟨by decide, by decide⟩,
        fun c hc => (shown_of_isTokenChar (hsub' c hc).1).1, hparams.shown⟩
    · obtain ⟨d, main, rfl⟩ := List.exists_cons_of_ne_nil hmain
      intro c hc
      cases hc
      exact (shown_of_isTokenChar (hmain' d List.mem_cons_self).1).2
    · have hsplit : main ++ '/' :: (sub ++ params) = (main ++ ['/']) ++ (sub ++ params) := by simp
      rw [hsplit, List.getLast?_append_of_ne_nil _ (List.append_ne_nil_of_left_ne_nil hsub params)]
      exact ne_blank_of_getLast?_append (ne_blank_of_isTokenChar fun c hc => (hsub' c hc).1) hparams.getLast?

def isShownByte (b : UInt8) : Bool := 31 < b && b < 127

theorem utf8_of_shown (h : ∀ c ∈ text.toList, Shown c) :
    Text.utf8 text = text.toList.map fun c => UInt8.ofNat c.toNat := by
  have hascii : ∀ c ∈ text.toList, c.toNat < 128 := fun c hc => Nat.lt_succ_of_lt (h c hc).2
  have hbytes := Text.utf8_ofList_ascii hascii
  rwa [String.ofList_toList] at hbytes

theorem isShownByte_of_shown (h : ∀ c ∈ text.toList, Shown c) : ∀ b ∈ Text.utf8 text, isShownByte b = true := by
  have hall : ∀ n < 128, Shown (Char.ofNat n) → isShownByte (UInt8.ofNat (Char.ofNat n).toNat) = true := by
    unfold Shown
    decide +kernel
  rw [utf8_of_shown h]
  intro b hb
  obtain ⟨c, hc, rfl⟩ := List.mem_map.mp hb
  exact Text.forall_ascii (P := fun c => Shown c → isShownByte (UInt8.ofNat c.toNat) = true) hall
    (Nat.lt_succ_of_lt (h c hc).2) (h c hc)

theorem of_isShownByte : ∀ b, isShownByte b = true → Message.isValueByte b = true ∧ b ≠ 13 ∧ b ≠ 9 :=
  Text.forall_byte (by decide +kernel)

theorem visibleText?_utf8 (h : ∀ c ∈ text.toList, Shown c) : Message.visibleText? (Text.utf8 text) = some text := by
  have hall : ((Text.utf8 text).all fun b => (32 ≤ b && b < 127) || b == 9) = true := by
    have hbyte : ∀ b : UInt8, isShownByte b = true → ((32 ≤ b && b < 127) || b == 9) = true :=
      Text.forall_byte (by decide +kernel)
    exact List.all_eq_true.mpr fun b hb => hbyte b (isShownByte_of_shown h b hb)
  have hback : ∀ n < 128, Char.ofNat (UInt8.ofNat (Char.ofNat n).toNat).toNat = Char.ofNat n := by decide +kernel
  have hchar : ∀ c ∈ text.toList, Char.ofNat (UInt8.ofNat c.toNat).toNat = c := fun c hc =>
    Text.forall_ascii (P := fun c => Char.ofNat (UInt8.ofNat c.toNat).toNat = c) hback (Nat.lt_succ_of_lt (h c hc).2)
  rw [Message.visibleText?, if_pos hall, utf8_of_shown h, List.map_map]
  refine congrArg some (String.toList_inj.mp ?_)
  rw [String.toList_ofList]
  exact (List.map_congr_left hchar).trans (List.map_id _)

end Accord.ContentType
