import Accord.Message.Query
import Accord.Proofs.Bytes

namespace Accord.Query

variable {separator b c : UInt8} {piece rest bytes : Bytes} {pairs : List (String × String)} {name value : String}

theorem splitBytes_cons (separator b : UInt8) (bytes : Bytes) :
    ∃ piece pieces, splitBytes separator bytes = piece :: pieces ∧
      splitBytes separator (b :: bytes) =
        if b = separator then [] :: piece :: pieces else (b :: piece) :: pieces := by
  refine ⟨_, _, rfl, ?_⟩
  simp only [splitBytes, List.foldr_cons]
  split <;> rfl

theorem splitBytes_of_not_mem (h : separator ∉ bytes) : splitBytes separator bytes = [bytes] := by
  induction bytes with
  | nil => rfl
  | cons b rest ih =>
    obtain ⟨hb, hrest⟩ := not_or.mp (List.mem_cons.not.mp h)
    obtain ⟨piece, pieces, hsplit, hcons⟩ := splitBytes_cons separator b rest
    cases hsplit.symm.trans (ih hrest)
    rw [hcons, if_neg fun he => hb he.symm]

theorem splitBytes_append_cons (separator : UInt8) (bytes more : Bytes) :
    splitBytes separator (bytes ++ separator :: more) =
      splitBytes separator bytes ++ splitBytes separator more := by
  induction bytes with
  | nil =>
    obtain ⟨piece, pieces, hsplit, hcons⟩ := splitBytes_cons separator separator more
    rw [List.nil_append, hcons, if_pos rfl, hsplit]
    rfl
  | cons b bytes ih =>
    obtain ⟨piece, pieces, hsplit, hcons⟩ := splitBytes_cons separator b bytes
    obtain ⟨piece', pieces', hsplit', hcons'⟩ := splitBytes_cons separator b (bytes ++ separator :: more)
    rw [ih, hsplit, List.cons_append] at hsplit'
    obtain ⟨rfl, rfl⟩ := List.cons.inj hsplit'
    rw [List.cons_append, hcons', hcons]
    split <;> rfl

theorem readPairs_append (bytes more : Bytes) :
    readPairs (bytes ++ 38 :: more) = readPairs bytes ++ readPairs more := by
  rw [readPairs, splitBytes_append_cons, List.filter_append, List.map_append]
  rfl

def encodedByte (b : UInt8) : Bytes := (encodeByte b).map fun c => UInt8.ofNat c.toNat

def Plain (b : UInt8) : Prop := isUnreserved b = true ∨ b = 37

instance (b : UInt8) : Decidable (Plain b) := inferInstanceAs (Decidable (_ ∨ _))

theorem plain_encodedByte (b : UInt8) : ∀ c ∈ encodedByte b, Plain c := by
  have hall : ∀ b, ((encodedByte b).all fun c => decide (Plain c)) = true := Text.forall_byte (by decide +kernel)
  exact fun c hc => of_decide_eq_true (List.all_eq_true.mp (hall b) c hc)

theorem ascii_encodeByte (b : UInt8) : ∀ c ∈ encodeByte b, c.toNat < 128 := by
  have hall : ∀ b, ((encodeByte b).all fun c => decide (c.toNat < 128)) = true := Text.forall_byte (by decide +kernel)
  exact fun c hc => of_decide_eq_true (List.all_eq_true.mp (hall b) c hc)

theorem encodedByte_cases (b : UInt8) : encodedByte b = [b] ∧ b ≠ 37 ∧ b ≠ 43 ∨
    ∃ high low, encodedByte b = [37, high, low] ∧
      hexPair? high low = some b ∧ high ≠ 37 ∧ high ≠ 43 ∧ low ≠ 37 ∧ low ≠ 43 := by
  have hall : ∀ b : UInt8, encodedByte b = [b] ∧ b ≠ 37 ∧ b ≠ 43 ∨
      encodedByte b = [37, (encodedByte b).getD 1 0, (encodedByte b).getD 2 0] ∧
        hexPair? ((encodedByte b).getD 1 0) ((encodedByte b).getD 2 0) = some b ∧
        (encodedByte b).getD 1 0 ≠ 37 ∧ (encodedByte b).getD 1 0 ≠ 43 ∧
        (encodedByte b).getD 2 0 ≠ 37 ∧ (encodedByte b).getD 2 0 ≠ 43 := Text.forall_byte (by decide +kernel)
  exact (hall b).imp_right fun h => ⟨_, _, h⟩

theorem utf8_encode (s : String) : Text.utf8 (encode s) = (Text.utf8 s).flatMap encodedByte := by
  have hascii : ∀ c ∈ (Text.utf8 s).flatMap encodeByte, c.toNat < 128 := fun c hc => by
    obtain ⟨b, -, hc⟩ := List.mem_flatMap.mp hc
    exact ascii_encodeByte b c hc
  rw [encode, Text.utf8_ofList_ascii hascii, List.map_flatMap]
  rfl

theorem plain_encode (s : String) : ∀ b ∈ Text.utf8 (encode s), Plain b := by
  intro b hb
  rw [utf8_encode] at hb
  obtain ⟨c, -, hb⟩ := List.mem_flatMap.mp hb
  exact plain_encodedByte c b hb

theorem not_mem_encode {b : UInt8} (h : ¬Plain b) (s : String) : b ∉ Text.utf8 (encode s) :=
  fun hb => h (plain_encode s b hb)

theorem decodeBytes_cons (h : b ≠ 37) (plus : b ≠ 43) (rest : Bytes) :
    decodeBytes (b :: rest) = b :: decodeBytes rest := by
  obtain ⟨piece, pieces, hsplit, hcons⟩ := splitBytes_cons 37 b (rest.map fun b => if b = 43 then 32 else b)
  unfold decodeBytes
  rw [List.map_cons, if_neg plus, hcons, if_neg h, hsplit]
  rfl

theorem decodeBytes_escape {high low : UInt8} (hpair : hexPair? high low = some b) (hhigh : high ≠ 37)
    (hhigh' : high ≠ 43) (hlow : low ≠ 37) (hlow' : low ≠ 43) (rest : Bytes) :
    decodeBytes (37 :: high :: low :: rest) = b :: decodeBytes rest := by
  let turned := rest.map fun b => if b = 43 then 32 else b
  obtain ⟨piece, pieces, hrest, hlowest⟩ := splitBytes_cons 37 low turned
  obtain ⟨_, _, hlowest', hhighest⟩ := splitBytes_cons 37 high (low :: turned)
  obtain ⟨_, _, hhighest', hall⟩ := splitBytes_cons 37 37 (high :: low :: turned)
  rw [if_neg hlow] at hlowest
  cases hlowest'.symm.trans hlowest
  rw [if_neg hhigh] at hhighest
  cases hhighest'.symm.trans hhighest
  unfold decodeBytes
  rw [List.map_cons, List.map_cons, List.map_cons, if_neg hhigh', if_neg hlow', if_neg (by decide), hall, if_pos rfl,
    hrest]
  simp only [List.nil_append, List.flatMap_cons, decodePiece, hpair, List.cons_append]

theorem decodeBytes_encodedByte (b : UInt8) (rest : Bytes) :
    decodeBytes (encodedByte b ++ rest) = b :: decodeBytes rest := by
  obtain ⟨hself, hpercent, hplus⟩ | ⟨high, low, hdigits, hpair, hhigh, hhigh', hlow, hlow'⟩ := encodedByte_cases b
  · rw [hself]
    exact decodeBytes_cons hpercent hplus rest
  · rw [hdigits]
    exact decodeBytes_escape hpair hhigh hhigh' hlow hlow' rest

theorem decodeBytes_flatMap (bytes : Bytes) : decodeBytes (bytes.flatMap encodedByte) = bytes := by
  induction bytes with
  | nil => rfl
  | cons b bytes ih => rw [List.flatMap_cons, decodeBytes_encodedByte, ih]

theorem decode_encode (s : String) : decode (Text.utf8 (encode s)) = s := by
  rw [decode, utf8_encode, decodeBytes_flatMap, Text.ofUtf8Lossy_utf8]

theorem utf8_writePair (name value : String) :
    Text.utf8 (writePair (name, value)) = Text.utf8 (encode name) ++ 61 :: Text.utf8 (encode value) := by
  have hequals : Text.utf8 "=" = [61] := Text.utf8_of_ascii (by decide)
  rw [writePair, Text.utf8_append, Text.utf8_append, hequals, List.append_assoc]
  rfl

theorem readPair_writePair (pair : String × String) : readPair (Text.utf8 (writePair pair)) = pair := by
  obtain ⟨name, value⟩ := pair
  have hname : ∀ b ∈ Text.utf8 (encode name), (b != 61) = true := fun b hb =>
    bne_iff_ne.mpr fun he => not_mem_encode (by decide) name (he ▸ hb)
  rw [readPair, utf8_writePair, Text.takeWhile_append_cons hname (by decide),
    Text.dropWhile_append_cons hname (by decide), List.drop_one, List.tail_cons, decode_encode, decode_encode]

theorem readPairs_writePair (pair : String × String) : readPairs (Text.utf8 (writePair pair)) = [pair] := by
  obtain ⟨name, value⟩ := pair
  have hseparator : 38 ∉ Text.utf8 (writePair (name, value)) := by
    rw [utf8_writePair, List.mem_append, List.mem_cons]
    rintro (h | h | h)
    · exact not_mem_encode (by decide) name h
    · cases h
    · exact not_mem_encode (by decide) value h
  have hne : (!(Text.utf8 (writePair (name, value))).isEmpty) = true := by
    rw [utf8_writePair]
    simp
  rw [readPairs, splitBytes_of_not_mem hseparator, List.filter_cons, if_pos hne, List.filter_nil, List.map_singleton,
    readPair_writePair]

/-- Reading pairs that have been written gives the pairs. -/
theorem readPairs_writePairs (pairs : List (String × String)) : readPairs (Text.utf8 (writePairs pairs)) = pairs := by
  induction pairs with
  | nil => decide +kernel
  | cons pair pairs ih =>
    cases pairs with
    | nil => exact readPairs_writePair pair
    | cons next pairs =>
      have hand : Text.utf8 "&" = [38] := Text.utf8_of_ascii (by decide)
      have hwritten : writePairs (pair :: next :: pairs) = writePair pair ++ "&" ++ writePairs (next :: pairs) :=
        String.intercalate_cons_cons
      rw [hwritten, Text.utf8_append, Text.utf8_append, hand, List.append_assoc, List.singleton_append,
        readPairs_append, readPairs_writePair, ih]
      rfl

end Accord.Query
