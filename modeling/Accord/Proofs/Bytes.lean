import Accord.Proofs.Text
import Accord.Text.Charset

namespace Accord.Text

variable {s : String} {chars : List Char}

theorem forall_byte {P : UInt8 → Prop} (h : ∀ n < 256, P (UInt8.ofNat n)) (b : UInt8) : P b := by
  have hb := h b.toNat b.toNat_lt
  rwa [UInt8.ofNat_toNat] at hb

theorem forall_ascii {P : Char → Prop} (h : ∀ n < 128, P (Char.ofNat n)) {c : Char} (hc : c.toNat < 128) : P c := by
  have hchar := h c.toNat hc
  rwa [Char.ofNat_toNat] at hchar

theorem toList_loop (array : ByteArray) (i : Nat) (before : List UInt8) :
    ByteArray.toList.loop array i before = before.reverse ++ array.data.toList.drop i := by
  fun_induction ByteArray.toList.loop array i before with
  | case1 i before h ih =>
    have hi : i < array.data.toList.length := h
    have hget : array.get! i = array.data.toList[i] := by simp [ByteArray.get!, h]
    rw [ih, List.drop_eq_getElem_cons hi, hget, List.reverse_cons, List.append_assoc]
    rfl
  | case2 i before h =>
    have hi : array.data.toList.length ≤ i := Nat.le_of_not_lt h
    rw [List.drop_eq_nil_of_le hi, List.append_nil]

theorem utf8_eq (s : String) : utf8 s = s.toByteArray.data.toList :=
  toList_loop s.toByteArray 0 []

theorem utf8_eq_flatMap (s : String) : utf8 s = s.toList.flatMap String.utf8EncodeChar := by
  rw [utf8_eq, ← String.utf8Encode_toList, List.utf8Encode, List.toList_data_toByteArray]

theorem utf8_append (s t : String) : utf8 (s ++ t) = utf8 s ++ utf8 t := by
  simp only [utf8_eq_flatMap, String.toList_append, List.flatMap_append]

theorem ofUtf8?_utf8 (s : String) : ofUtf8? (utf8 s) = some s := by
  have hbytes : (⟨(utf8 s).toArray⟩ : ByteArray) = s.toByteArray := by rw [utf8_eq]
  rw [ofUtf8?, hbytes, String.fromUTF8?, dif_pos s.isValidUTF8]
  rfl

theorem utf8_of_ofUtf8? {bytes : Bytes} (h : ofUtf8? bytes = some s) : utf8 s = bytes := by
  unfold ofUtf8? String.fromUTF8? at h
  split at h
  · cases h
    rw [utf8_eq]
    rfl
  · cases h

theorem ofUtf8Lossy_utf8 (s : String) : ofUtf8Lossy (utf8 s) = s := by
  rw [ofUtf8Lossy, ofUtf8?_utf8]
  rfl

theorem utf8EncodeChar_ascii {c : Char} (h : c.toNat < 128) :
    String.utf8EncodeChar c = [UInt8.ofNat c.toNat] := by
  have hle : c.val.toNat ≤ 127 := Nat.le_of_lt_succ h
  rw [String.utf8EncodeChar.eq_1, if_pos hle]
  rfl

theorem utf8_ofList_ascii (h : ∀ c ∈ chars, c.toNat < 128) :
    utf8 (String.ofList chars) = chars.map fun c => UInt8.ofNat c.toNat := by
  rw [utf8_eq_flatMap, String.toList_ofList]
  induction chars with
  | nil => rfl
  | cons c chars ih =>
    obtain ⟨hc, hchars⟩ := List.forall_mem_cons.mp h
    rw [List.flatMap_cons, utf8EncodeChar_ascii hc, ih hchars]
    rfl

theorem utf8_of_ascii (h : (s.toList.all fun c => decide (c.toNat < 128)) = true) :
    utf8 s = s.toList.map fun c => UInt8.ofNat c.toNat := by
  have hbytes := utf8_ofList_ascii fun c hc => of_decide_eq_true (List.all_eq_true.mp h c hc)
  rwa [String.ofList_toList] at hbytes

def mark : Char := Char.ofNat 0xFEFF

theorem utf8EncodeChar_head {c : Char} {b : UInt8} {more : Bytes} (h : String.utf8EncodeChar c = b :: more) :
    b.toNat < 254 ∧ (b = 0xEF → ∀ rest rest', more ++ rest = 0xBB :: 0xBF :: rest' → c = mark) := by
  have hcode : c.val.toNat = c.toNat := rfl
  have hmax := c.val.toNat_lt
  have hmark : c.toNat = 0xFEFF → c = mark := fun hc => by rw [← Char.ofNat_toNat c, hc, mark]
  have hbyte : ∀ {n : Nat} {b : UInt8}, UInt8.ofNat n = b → n % 256 = b.toNat := fun h => by
    rw [← h, UInt8.toNat_ofNat']
  have hfirst : b = 0xEF → b.toNat = 239 := fun h => by rw [h]; rfl
  rw [String.utf8EncodeChar.eq_1] at h
  split at h
  · have hb := hbyte (List.cons.inj h).1
    exact ⟨by omega, fun h => absurd (hfirst h) (by omega)⟩
  · split at h
    · have hb := hbyte (List.cons.inj h).1
      exact ⟨by omega, fun h => absurd (hfirst h) (by omega)⟩
    · split at h
      · obtain ⟨hb, rfl⟩ := List.cons.inj h
        replace hb := hbyte hb
        refine ⟨by omega, fun h rest rest' hmore => hmark ?_⟩
        obtain ⟨hsecond, hmore⟩ := List.cons.inj hmore
        obtain ⟨hthird, -⟩ := List.cons.inj hmore
        have hb' : _ = 239 := hb.trans (hfirst h)
        have hsecond' : _ = 187 := hbyte hsecond
        have hthird' : _ = 191 := hbyte hthird
        omega
      · have hb := hbyte (List.cons.inj h).1
        exact ⟨by omega, fun h => absurd (hfirst h) (by omega)⟩

theorem decode_utf8 (h : s.toList.head? ≠ some mark) : Charset.utf8.decode (utf8 s) = s := by
  have hbare : Charset.utf8.decodeBare (utf8 s) = s := ofUtf8Lossy_utf8 s
  cases hchars : s.toList with
  | nil =>
    have hempty : utf8 s = [] := by rw [utf8_eq_flatMap, hchars, List.flatMap_nil]
    rw [hempty] at hbare ⊢
    exact hbare
  | cons c chars =>
    obtain ⟨b, more, hc⟩ := List.exists_cons_of_ne_nil (String.utf8EncodeChar_ne_nil (c := c))
    obtain ⟨hb, hmark⟩ := utf8EncodeChar_head hc
    have hbytes : utf8 s = b :: (more ++ chars.flatMap String.utf8EncodeChar) := by
      rw [utf8_eq_flatMap, hchars, List.flatMap_cons, hc, List.cons_append]
    rw [hbytes] at hbare ⊢
    unfold Charset.decode
    split
    · next hstart =>
      obtain ⟨hfirst, hrest⟩ := List.cons.inj hstart
      rw [hchars] at h
      exact absurd (congrArg some (hmark hfirst _ _ hrest)) h
    · next hstart =>
      rw [(List.cons.inj hstart).1] at hb
      exact absurd hb (by decide)
    · next hstart =>
      rw [(List.cons.inj hstart).1] at hb
      exact absurd hb (by decide)
    · exact hbare

end Accord.Text
