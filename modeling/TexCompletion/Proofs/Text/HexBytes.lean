import Mathlib.Data.List.Basic
import TexCompletion.Proofs.Except
import TexCompletion.Text.HexBytes

/-!
# Bytes and their digits

Hexadecimal digits can be read character by character or from the bytes of a text.  Both come to the
same: a digit is one byte in UTF-8, and no byte of a character outside ASCII is a digit
(`mapM_digitOfByte?_utf8Bytes`).  So the number of bytes can be told before a digit is read
(`decodeHex?_eq_some_iff`).

`pairUp` makes bytes of digits.  On digits of an even number it has an inverse, `digitsOf`, so to each list
of bytes there is one list of digits, and the text of the bytes is that of the digits
(`encodeHex_eq_map`).
-/

namespace TexCompletion.Text

/-! ## One byte -/

/-- The digit that a byte is in ASCII. -/
def digitOfByte? (b : UInt8) : Option (Fin 16) :=
  hexValue? (Char.ofNat b.toNat)

theorem hexByte?_eq_map (b : UInt8) :
    hexByte? b = (digitOfByte? b).map fun d => UInt8.ofNat d.val := by
  have hall : ∀ n < 256, hexByte? (UInt8.ofNat n) =
      (digitOfByte? (UInt8.ofNat n)).map fun d => UInt8.ofNat d.val := by
    decide +kernel
  have hb := hall b.toNat b.toNat_lt
  rwa [UInt8.ofNat_toNat] at hb

/-- No character outside ASCII is a digit. -/
theorem hexValue?_of_not_ascii {c : Char} (h : 0x80 ≤ c.toNat) : hexValue? c = none := by
  have habove (d : Char) (hd : d.toNat < 0x80) : ¬c ≤ d := fun hle =>
    absurd (show c.toNat ≤ d.toNat from hle) (by omega)
  rw [hexValue?, if_neg fun hc => habove '9' (by decide) hc.2,
    if_neg fun hc => habove 'f' (by decide) hc.2, if_neg fun hc => habove 'F' (by decide) hc.2]

theorem digitOfByte?_of_not_ascii {b : UInt8} (h : 0x80 ≤ b.toNat) : digitOfByte? b = none := by
  have hall : ∀ n < 256, 0x80 ≤ n → digitOfByte? (UInt8.ofNat n) = none := by decide +kernel
  have hb := hall b.toNat b.toNat_lt h
  rwa [UInt8.ofNat_toNat] at hb

/-! ## The bytes of a text -/

theorem utf8Bytes_eq_flatMap (text : String) :
    utf8Bytes text = text.toList.flatMap String.utf8EncodeChar := by
  rw [utf8Bytes, String.toUTF8_eq_toByteArray, ← String.utf8Encode_toList, List.utf8Encode,
    List.data_toByteArray]

/-- A character of ASCII is one byte. -/
theorem utf8EncodeChar_of_ascii {c : Char} (h : c.toNat < 0x80) :
    String.utf8EncodeChar c = [UInt8.ofNat c.toNat] :=
  if_pos (Nat.le_of_lt_succ h)

/-- Another character begins with a byte outside ASCII. -/
theorem exists_utf8EncodeChar {c : Char} (h : 0x80 ≤ c.toNat) :
    ∃ b bs, String.utf8EncodeChar c = b :: bs ∧ 0x80 ≤ b.toNat := by
  have hc : ¬c.val.toNat ≤ 127 := Nat.not_le.mpr h
  simp only [String.utf8EncodeChar, if_neg hc]
  split
  next => exact ⟨_, _, rfl, by rw [UInt8.toNat_ofNat']; omega⟩
  split
  next => exact ⟨_, _, rfl, by rw [UInt8.toNat_ofNat']; omega⟩
  next => exact ⟨_, _, rfl, by rw [UInt8.toNat_ofNat']; omega⟩

/-- The digits of a text are the same, read from its bytes or from its characters. -/
theorem mapM_digitOfByte?_utf8Bytes (text : String) :
    (utf8Bytes text).mapM digitOfByte? = text.toList.mapM hexValue? := by
  rw [utf8Bytes_eq_flatMap]
  induction text.toList with
  | nil => rfl
  | cons c cs ih =>
    rw [List.flatMap_cons, List.mapM_append, ih, List.mapM_cons]
    by_cases h : c.toNat < 0x80
    · have hbyte : digitOfByte? (UInt8.ofNat c.toNat) = hexValue? c := by
        rw [digitOfByte?, UInt8.toNat_ofNat_of_lt' (Nat.lt_trans h (by decide)), Char.ofNat_toNat]
      rw [utf8EncodeChar_of_ascii h, List.mapM_cons, hbyte]
      cases hexValue? c <;> simp
    · -- both readings end here: at the first byte of the character, or at the character
      obtain ⟨b, bs, hbytes, hb⟩ := exists_utf8EncodeChar (Nat.le_of_not_lt h)
      rw [hbytes, List.mapM_cons, digitOfByte?_of_not_ascii hb,
        hexValue?_of_not_ascii (Nat.le_of_not_lt h)]
      rfl

/-! ## Pairs of digits -/

/-- The bytes that digits stand for, the high digit of each byte first. -/
def pairUp : List (Fin 16) → List UInt8
  | high :: low :: ds => UInt8.ofNat (high.val * 16 + low.val) :: pairUp ds
  | _ => []

/-- The digits of bytes. -/
def digitsOf (bytes : List UInt8) : List (Fin 16) :=
  bytes.flatMap fun (b : UInt8) => [lowDigit (b >>> 4).toNat, lowDigit (b &&& 0x0F).toNat]

theorem digits_of_pair (high low : Fin 16) :
    let b := UInt8.ofNat (high.val * 16 + low.val)
    lowDigit (b >>> 4).toNat = high ∧ lowDigit (b &&& 0x0F).toNat = low := by
  revert high low
  decide +kernel

theorem pair_of_digits (b : UInt8) :
    UInt8.ofNat ((lowDigit (b >>> 4).toNat).val * 16 + (lowDigit (b &&& 0x0F).toNat).val) = b := by
  have hall : ∀ n < 256, let b := UInt8.ofNat n
      UInt8.ofNat ((lowDigit (b >>> 4).toNat).val * 16 + (lowDigit (b &&& 0x0F).toNat).val) = b := by
    decide +kernel
  have hb := hall b.toNat b.toNat_lt
  rwa [UInt8.ofNat_toNat] at hb

/-- To shift the high digit and to add the low one by bits is to make a byte of them. -/
theorem shift_or_eq_pair (high low : Fin 16) :
    UInt8.ofNat high.val <<< 4 ||| UInt8.ofNat low.val =
      UInt8.ofNat (high.val * 16 + low.val) := by
  revert high low
  decide +kernel

theorem pairUp_digitsOf (bytes : List UInt8) : pairUp (digitsOf bytes) = bytes := by
  induction bytes with
  | nil => rfl
  | cons b bytes ih =>
    rw [digitsOf, List.flatMap_cons, List.cons_append, List.cons_append, List.nil_append, pairUp,
      pair_of_digits]
    exact congrArg (b :: ·) ih

/-- Digits of an even number are those of the bytes that they stand for. -/
theorem digitsOf_pairUp {ds : List (Fin 16)} (h : ds.length % 2 = 0) : digitsOf (pairUp ds) = ds := by
  fun_induction pairUp ds with
  | case1 high low ds ih =>
    obtain ⟨hhigh, hlow⟩ := digits_of_pair high low
    have hds : ds.length % 2 = 0 := by
      rw [List.length_cons, List.length_cons] at h
      omega
    rw [digitsOf, List.flatMap_cons, hhigh, hlow]
    exact congrArg ([high, low] ++ ·) (ih hds)
  | case2 ds hds =>
    match ds, hds with
    | [], _ => rfl
    | [_], _ => simp at h
    | high :: low :: ds, hds => exact absurd rfl (hds high low ds)

theorem length_digitsOf (bytes : List UInt8) : (digitsOf bytes).length = 2 * bytes.length := by
  rw [digitsOf, List.length_flatMap]
  simp [Nat.mul_comm]

/-- The text of bytes is that of their digits. -/
theorem encodeHex_eq_map (bytes : List UInt8) : encodeHex bytes = (digitsOf bytes).map hexDigit := by
  rw [encodeHex, digitsOf, List.map_flatMap]
  rfl

/-- What is read from the bytes of a text of even length is made of the digits. -/
theorem pairHex?_eq_map {text : List UInt8} (h : text.length % 2 = 0) :
    pairHex? text = (text.mapM digitOfByte?).map pairUp := by
  fun_induction pairHex? text with
  | case1 high low rest ih =>
    have hrest : rest.length % 2 = 0 := by
      rw [List.length_cons, List.length_cons] at h
      omega
    rw [hexByte?_eq_map, hexByte?_eq_map, ih hrest, List.mapM_cons, List.mapM_cons]
    cases digitOfByte? high with
    | none => rfl
    | some d =>
      cases digitOfByte? low with
      | none => rfl
      | some e =>
        cases rest.mapM digitOfByte? with
        | none => rfl
        | some ds => exact congrArg some (congrArg (· :: pairUp ds) (shift_or_eq_pair d e))
  | case2 => rfl
  | case3 => simp at h

/-- **A number of bytes is read from a text exactly if its characters are twice as many digits**, and then
the bytes are made of these.  The bytes of the text, which are counted first, are then as many as the
characters. -/
theorem decodeHex?_eq_some_iff {count : Nat} {text : String} {bytes : List UInt8} :
    decodeHex? count text = some bytes ↔
      ∃ ds, text.toList.mapM hexValue? = some ds ∧ ds.length = 2 * count ∧ pairUp ds = bytes := by
  have hcount : decodeHex? count text = some bytes ↔
      (utf8Bytes text).length = 2 * count ∧ pairHex? (utf8Bytes text) = some bytes := by
    rw [decodeHex?, Option.ite_none_left_eq_some, Option.ite_none_left_eq_some, ← and_assoc]
    exact and_congr_left fun _ => by omega
  rw [hcount, ← mapM_digitOfByte?_utf8Bytes]
  -- what is read has as many digits as the text has bytes, so both counts are the same
  constructor
  · rintro ⟨hlength, hpairs⟩
    rw [pairHex?_eq_map (by omega)] at hpairs
    obtain ⟨ds, hds, rfl⟩ := Option.map_eq_some_iff.mp hpairs
    exact ⟨ds, hds, (mapM_eq_some_iff.mp hds).length_eq ▸ hlength, rfl⟩
  · rintro ⟨ds, hds, hlength, rfl⟩
    have heq := (mapM_eq_some_iff.mp hds).length_eq
    refine ⟨heq.trans hlength, ?_⟩
    rw [pairHex?_eq_map (by omega), hds, Option.map_some]

end TexCompletion.Text
