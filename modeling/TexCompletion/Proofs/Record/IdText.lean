import Mathlib.Logic.ExistsUnique
import TexCompletion.Proofs.Json.Strings
import TexCompletion.Proofs.Record.Spelling
import TexCompletion.Proofs.Text.HexBytes

/-!
# Ids and their texts

An id is twelve bytes, any twelve (`existsUnique_bytes`), and its text is the digits of these.  It is read
in three places: as it stands (`parse`), with white space around it (`normalize`), and from a JSON string,
again with white space around it.  The three differ in what they take off first, and what is left is told
without them: twenty-four digits in either case (`IsIdText`), of which the id has the small form
(`IsReadAs`).

Characters and bytes are two ways to count a text.  A reader that works on the bytes, and tells by their
number whether the text can be that of an id, reads the same ids from the same texts
(`parse_eq_ok_iff_decodeHex?`).

The main statement is `texts_of_id`.  That an id is read back from its own text, that one text is shown for
all spellings of an id, and that no two ids share a text follow from it.
-/

namespace TexCompletion.RecordId

open Text Json

variable {text : String} {id : RecordId}

/-! ## The bytes of an id -/

/-- The bytes of an id. -/
def bytes (id : RecordId) : List UInt8 :=
  pairUp id.digits

theorem digitsOf_bytes (id : RecordId) : digitsOf id.bytes = id.digits :=
  digitsOf_pairUp (by rw [id.length_digits])

/-- **Any twelve bytes are an id**, and no two ids have the same. -/
theorem existsUnique_bytes {bs : List UInt8} (h : bs.length = 12) : ∃! id : RecordId, id.bytes = bs := by
  refine ⟨⟨digitsOf bs, by rw [length_digitsOf, h]⟩, pairUp_digitsOf bs, fun id hid => ?_⟩
  obtain ⟨digits, hdigits⟩ := id
  simp only [mk.injEq, ← hid]
  exact (digitsOf_bytes ⟨digits, hdigits⟩).symm

theorem encodeHex_bytes (id : RecordId) : encodeHex id.bytes = id.toChars := by
  rw [encodeHex_eq_map, digitsOf_bytes, toChars]

theorem parse_eq_ok_iff_decodeHex? : parse text = .ok id ↔ decodeHex? 12 text = some id.bytes := by
  rw [parse_eq_ok_iff, toChars, ← mapM_hexValue?_eq_some_iff, decodeHex?_eq_some_iff]
  constructor
  · intro h
    exact ⟨id.digits, h, id.length_digits, rfl⟩
  · rintro ⟨digits, hread, hlength, hbytes⟩
    have hdigits : digits = id.digits := by
      rw [← digitsOf_pairUp (show digits.length % 2 = 0 by omega), hbytes, digitsOf_bytes]
    rw [hread, hdigits]

/-! ## Texts of ids -/

/-- The text is twenty-four hexadecimal digits, in either case. -/
def IsIdText (text : String) : Prop :=
  text.length = 24 ∧ ∀ c ∈ text.toList, c ∈ "0123456789abcdefABCDEF".toList

/-- An id is read exactly if the text is twenty-four digits, and then it is shown as the text in small
letters. -/
def IsReadAs {ε : Type} (result : Except ε RecordId) (text : String) : Prop :=
  ((∃ id, result = .ok id) ↔ IsIdText text) ∧ ∀ id, result = .ok id → toString id = text.toLower

theorem exists_hexValue?_iff {c : Char} :
    (∃ d, hexValue? c = some d) ↔ c ∈ "0123456789abcdefABCDEF".toList := by
  constructor
  · rintro ⟨d, h⟩
    have hall : ∀ d, hexDigit d ∈ "0123456789abcdefABCDEF".toList ∧
        (hexDigit d).toUpper ∈ "0123456789abcdefABCDEF".toList := by
      decide
    rcases eq_of_toLower (hexValue?_eq_some_iff.mp h) with rfl | rfl
    · exact (hall d).1
    · exact (hall d).2
  · intro h
    have hall : "0123456789abcdefABCDEF".toList.all (fun c => (hexValue? c).isSome) := by decide
    exact Option.isSome_iff_exists.mp (List.all_eq_true.mp hall c h)

/-- Twenty-four digits are the text of an id, up to the case of the letters. -/
theorem isIdText_iff : IsIdText text ↔ ∃ id : RecordId, text.toList.map Char.toLower = id.toChars := by
  simp only [toChars, ← mapM_hexValue?_eq_some_iff, IsIdText, ← exists_hexValue?_iff,
    ← exists_mapM_eq_some_iff, ← String.length_toList]
  constructor
  · rintro ⟨hlength, digits, hread⟩
    have hdigits : digits.length = 24 := (mapM_eq_some_iff.mp hread).length_eq ▸ hlength
    exact ⟨⟨digits, hdigits⟩, hread⟩
  · rintro ⟨id, hread⟩
    exact ⟨(mapM_eq_some_iff.mp hread).length_eq.trans id.length_digits, id.digits, hread⟩

theorem toList_toString (id : RecordId) : (toString id).toList = id.toChars :=
  String.toList_ofList

theorem toString_eq_toLower_iff :
    toString id = text.toLower ↔ text.toList.map Char.toLower = id.toChars := by
  have hlower : text.toLower.toList = text.toList.map Char.toLower := String.toList_map
  rw [← String.toList_inj, hlower, toList_toString, eq_comm]

theorem isReadAs_of_iff {ε : Type} {result : Except ε RecordId}
    (h : ∀ id, result = .ok id ↔ text.toList.map Char.toLower = id.toChars) : IsReadAs result text := by
  simp only [IsReadAs, h, isIdText_iff, toString_eq_toLower_iff]
  exact ⟨trivial, fun _ h => h⟩

theorem isReadAs_parse (text : String) : IsReadAs (parse text) text :=
  isReadAs_of_iff fun _ => parse_eq_ok_iff

theorem isReadAs_normalize (text : String) : IsReadAs (normalize text) (trim text) :=
  isReadAs_parse (trim text)

/-! ## Ids in JSON -/

/-- Making sense of a string is the same as normalising it, but for the wording of what is wrong. -/
theorem mapError_normalize_eq_ok_iff {f : RecordError → Cause} :
    (normalize text).mapError f = .ok id ↔ normalize text = .ok id := by
  cases normalize text <;> simp [Except.mapError]

theorem fromValue_decoder_eq_ok_iff :
    decoder.fromValue (.string text) = .ok id ↔ normalize text = .ok id := by
  rw [decoder, Decoder.fromValue_checked_string, mapError_normalize_eq_ok_iff]

/-- A text is read as an id exactly if it is a string that is normalised to it. -/
theorem onText_decoder_eq_ok_iff {json : String} :
    decoder.onText json = .ok id ↔
      ∃ text, Value.ofText json = .ok (.string text) ∧ normalize text = .ok id := by
  rw [decoder, Decoder.onText_checked_string_iff]
  simp only [mapError_normalize_eq_ok_iff]

/-- An id needs no escapes in JSON. -/
theorem isPlain_of_mem_toString {c : Char} (h : c ∈ (toString id).toList) :
    Reader.isPlain c = true := by
  have hall : ∀ d, Reader.isPlain (hexDigit d) = true := by decide
  rw [toList_toString, toChars] at h
  obtain ⟨d, -, rfl⟩ := List.mem_map.mp h
  exact hall d

/-! ## From an id to its text and back -/

theorem map_toLower_toString (id : RecordId) :
    (toString id).toList.map Char.toLower = id.toChars := by
  have hsmall : ∀ d, (hexDigit d).toLower = hexDigit d := by decide
  rw [toList_toString, toChars, List.map_map]
  exact List.map_congr_left fun d _ => hsmall d

theorem parse_toString (id : RecordId) : parse (toString id) = .ok id :=
  parse_eq_ok_iff.mpr (map_toLower_toString id)

theorem normalize_toString (id : RecordId) : normalize (toString id) = .ok id :=
  normalize_eq_ok_iff.mpr ⟨[], (toString id).toList, [], by simp, nofun, map_toLower_toString id⟩

/-- No two ids share a text. -/
theorem toString_inj {id id' : RecordId} : toString id = toString id' ↔ id = id' := by
  refine ⟨fun h => ?_, congrArg toString⟩
  have hparse := parse_toString id
  rw [h, parse_toString] at hparse
  exact (Except.ok.inj hparse).symm

/-- What is written of an id in JSON is read back as the id. -/
theorem onText_decoder_toString (id : RecordId) :
    decoder.onText (Value.string (toString id)).text = .ok id :=
  onText_decoder_eq_ok_iff.mpr
    ⟨_, ofText_printedString fun _ => isPlain_of_mem_toString, normalize_toString id⟩

/-- **Texts of ids.**  A text has an id exactly if, without the white space around it, it is twenty-four
hexadecimal digits in either case, and the id is shown as these digits in small letters.  To parse is the
same without taking white space off, and a JSON string has the id of what it holds.  So every id is read
back from its own text in each of these ways, what is shown of a text is shown of itself, and two texts
have one id exactly if they are equal without the white space around them and without regard to case.  The
ids are the lists of twelve bytes, written as their digits, and it makes no difference whether the digits
of a text are counted and read as characters or as bytes. -/
theorem texts_of_id :
    (∀ text, IsCore (trim text).toList text.toList ∧ IsReadAs (normalize text) (trim text)) ∧
    (∀ text, IsReadAs (parse text) text) ∧
    (∀ text id, decoder.fromValue (.string text) = .ok id ↔ normalize text = .ok id) ∧
    (∀ json id, decoder.onText json = .ok id ↔
      ∃ text, Value.ofText json = .ok (.string text) ∧ normalize text = .ok id) ∧
    (∀ id, let text := toString id
      normalize text = .ok id ∧ parse text = .ok id ∧ decoder.fromValue (.string text) = .ok id ∧
        decoder.onText (Value.string text).text = .ok id) ∧
    (∀ text shown, toString <$> normalize text = .ok shown →
      toString <$> normalize shown = .ok shown) ∧
    (∀ text other id id', normalize text = .ok id → normalize other = .ok id' →
      (id = id' ↔ (trim text).toLower = (trim other).toLower)) ∧
    (∀ text (id : RecordId), parse text = .ok id ↔ decodeHex? 12 text = some id.bytes) ∧
    (∀ id : RecordId, toString id = String.ofList (encodeHex id.bytes)) ∧
    ∀ bs, bs.length = 12 → ∃! id : RecordId, id.bytes = bs := by
  refine ⟨fun text => ⟨?_, isReadAs_normalize text⟩, isReadAs_parse, fun _ _ => fromValue_decoder_eq_ok_iff,
    fun _ _ => onText_decoder_eq_ok_iff, fun id => ?_, fun text shown h => ?_,
    fun text other id id' h h' => ?_, fun _ _ => parse_eq_ok_iff_decodeHex?, fun id => ?_,
    fun bs => existsUnique_bytes⟩
  · rw [trim, String.toList_ofList]
    exact trimChars_eq_iff_isCore.mp rfl
  · exact ⟨normalize_toString id, parse_toString id,
      fromValue_decoder_eq_ok_iff.mpr (normalize_toString id), onText_decoder_toString id⟩
  · cases hid : normalize text with
    | error e => simp [hid] at h
    | ok id =>
      obtain rfl : toString id = shown := by simpa [hid] using h
      rw [normalize_toString id]
      rfl
  · rw [← (isReadAs_normalize text).2 id h, ← (isReadAs_normalize other).2 id' h', toString_inj]
  · rw [encodeHex_bytes]
    rfl

end TexCompletion.RecordId
