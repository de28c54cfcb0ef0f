import Mathlib.Data.List.Forall2
import TexCompletion.Proofs.Record.History
import TexCompletion.Proofs.Text.Ending

/-!
# How an id is spelled

Rooms, users and records are named by texts, and one id has many of them: its digits can be written in
either case, and white space may stand around them (`RecordId.IsSpelling`).  To normalise a text is to
recognise such a spelling, no more and no less (`normalize_eq_ok_iff`).

Texts are normalised before anything else is done with them, so an operation cannot tell one spelling
from another (`step_respelled`).  The main statement, `run_respelled`, is the induction along a run in
which each use of an id has a spelling of its own.
-/

namespace TexCompletion

open Text

/-! ## Digits -/

/-- A character with a small form that is a digit is that digit, in small letters or in capitals. -/
theorem Text.eq_of_toLower {c : Char} {d : Fin 16} (h : c.toLower = hexDigit d) :
    c = hexDigit d ∨ c = (hexDigit d).toUpper := by
  by_cases hupper : c.val ≥ 'A'.val ∧ c.val ≤ 'Z'.val
  · have hall : ∀ n ≤ 'Z'.toNat, ∀ d : Fin 16, (Char.ofNat n).toLower = hexDigit d →
        Char.ofNat n = hexDigit d ∨ Char.ofNat n = (hexDigit d).toUpper := by
      decide +kernel
    have hc := hall c.toNat hupper.2 d
    rw [Char.ofNat_toNat] at hc
    exact hc h
  · have hsame : c.toLower = c := dif_neg hupper
    exact .inl (hsame ▸ h)

/-- A character is read as the digit that is its small form. -/
theorem Text.hexValue?_eq_some_iff {c : Char} {d : Fin 16} :
    hexValue? c = some d ↔ c.toLower = hexDigit d := by
  refine ⟨fun h => (hexDigit_of_hexValue? h).symm, fun h => ?_⟩
  have hcapital : ∀ d, hexValue? (hexDigit d).toUpper = some d := by decide
  rcases eq_of_toLower h with rfl | rfl
  · exact hexValue?_hexDigit d
  · exact hcapital d

/-- No digit is white space. -/
theorem Text.isBlank_of_toLower {c : Char} {d : Fin 16} (h : c.toLower = hexDigit d) :
    isBlank c = false := by
  have hdigit : ∀ d, isBlank (hexDigit d) = false ∧ isBlank (hexDigit d).toUpper = false := by
    decide
  rcases eq_of_toLower h with rfl | rfl
  · exact (hdigit d).1
  · exact (hdigit d).2

/-- Characters are read as the digits that are their small forms. -/
theorem Text.mapM_hexValue?_eq_some_iff {cs : List Char} {ds : List (Fin 16)} :
    cs.mapM hexValue? = some ds ↔ cs.map Char.toLower = ds.map hexDigit := by
  induction cs generalizing ds with
  | nil => cases ds <;> simp
  | cons c cs ih =>
    simp only [List.mapM_cons, Option.bind_eq_bind, Option.bind_eq_some_iff, ih,
      hexValue?_eq_some_iff, Option.pure_def, Option.some.injEq]
    cases ds <;> simp [and_comm]

/-! ## Spellings of an id -/

namespace RecordId

/-- The text spells the id: it has the digits of the id, in either case, and around them there is
nothing but white space. -/
def IsSpelling (id : RecordId) (text : String) : Prop :=
  ∃ left digits right, text.toList = left ++ digits ++ right ∧
    (∀ c ∈ left ++ right, isBlank c = true) ∧ digits.map Char.toLower = id.toChars

theorem ofDigits?_eq_some_iff {cs : List Char} {id : RecordId} :
    ofDigits? cs = some id ↔ cs.map Char.toLower = id.toChars := by
  rw [toChars, ← mapM_hexValue?_eq_some_iff, ofDigits?]
  cases cs.mapM hexValue? with
  | none => simp
  | some digits =>
    obtain ⟨ds, hds⟩ := id
    rw [Option.some.injEq]
    constructor
    · intro h
      obtain ⟨_, hid⟩ := Option.dite_none_right_eq_some.mp h
      exact congrArg RecordId.digits (Option.some.inj hid)
    · rintro rfl
      exact dif_pos hds

theorem parse_eq_ok_iff {text : String} {id : RecordId} :
    parse text = .ok id ↔ text.toList.map Char.toLower = id.toChars := by
  rw [← ofDigits?_eq_some_iff, parse]
  cases ofDigits? text.toList <;> simp

/-- **To normalise a text is to recognise what it spells.** -/
theorem normalize_eq_ok_iff {text : String} {id : RecordId} :
    normalize text = .ok id ↔ id.IsSpelling text := by
  rw [normalize, parse_eq_ok_iff, trim, String.toList_ofList]
  have hdigits {digits : List Char} (h : digits.map Char.toLower = id.toChars) :
      ∀ c ∈ digits, isBlank c = false := by
    intro c hc
    have hsmall : c.toLower ∈ id.toChars := h ▸ List.mem_map_of_mem hc
    obtain ⟨d, -, hd⟩ := List.mem_map.mp hsmall
    exact isBlank_of_toLower hd.symm
  constructor
  · intro h
    obtain ⟨left, right, htext, hblank⟩ := (trimChars_eq_iff (hdigits h)).mp rfl
    exact ⟨left, _, right, htext, hblank, h⟩
  · rintro ⟨left, digits, right, htext, hblank, h⟩
    rwa [(trimChars_eq_iff (hdigits h)).mpr ⟨left, right, htext, hblank⟩]

/-- The second text is the first one, or spells the same id in another way.  What is no id has no other
spelling. -/
def Respells (text other : String) : Prop :=
  text = other ∨ ∃ id : RecordId, id.IsSpelling text ∧ id.IsSpelling other

theorem Respells.normalize_eq {text other : String} (h : Respells text other) :
    normalize text = normalize other := by
  obtain rfl | ⟨id, htext, hother⟩ := h
  · rfl
  · rw [normalize_eq_ok_iff.mpr htext, normalize_eq_ok_iff.mpr hother]

theorem mapM_normalize_eq {texts others : List String} (h : List.Forall₂ Respells texts others) :
    texts.mapM normalize = others.mapM normalize := by
  induction h with
  | nil => rfl
  | cons hfirst _ ih => rw [List.mapM_cons, List.mapM_cons, hfirst.normalize_eq, ih]

end RecordId

namespace Store

open RecordId (IsSpelling Respells normalize normalize_eq_ok_iff)

/-! ## Operations on ids that are spelled in another way -/

/-- The same operation on the same ids, each of them spelled in a way of its own. -/
inductive Operation.Respelled : Operation → Operation → Prop
  | create {room room' user user' : String} (id : RecordId) (hroom : Respells room room')
    (huser : Respells user user') (content : String) (timestamp : Int) :
    Operation.Respelled (.create id room user content timestamp)
      (.create id room' user' content timestamp)
  | list {room room' : String} (hroom : Respells room room') (limit : Nat) (before : Option Int) :
    Operation.Respelled (.list room limit before) (.list room' limit before)
  | listInRooms {rooms rooms' : List String} (hrooms : List.Forall₂ Respells rooms rooms') :
    Operation.Respelled (.listInRooms rooms) (.listInRooms rooms')
  | update {room room' id id' : String} (hroom : Respells room room') (hid : Respells id id')
    (content : String) (timestamp : Int) :
    Operation.Respelled (.update room id content timestamp) (.update room' id' content timestamp)
  | delete {room room' id id' : String} (hroom : Respells room room') (hid : Respells id id') :
    Operation.Respelled (.delete room id) (.delete room' id')
  | deleteAll {room room' : String} (hroom : Respells room room') :
    Operation.Respelled (.deleteAll room) (.deleteAll room')

/-- One operation has the same result, and leaves the same store. -/
theorem step_respelled {op other : Operation} (h : op.Respelled other) (s : Store) :
    s.step op = s.step other := by
  cases h with
  | create id hroom huser => rw [step, step, create, create, hroom.normalize_eq, huser.normalize_eq]
  | list hroom => rw [step, step, list, list, hroom.normalize_eq]
  | listInRooms hrooms =>
    rw [step, step, listInRooms, listInRooms, RecordId.mapM_normalize_eq hrooms]
  | update hroom hid => rw [step, step, update, update, hroom.normalize_eq, hid.normalize_eq]
  | delete hroom hid => rw [step, step, delete, delete, hroom.normalize_eq, hid.normalize_eq]
  | deleteAll hroom => rw [step, step, deleteAll, deleteAll, hroom.normalize_eq]

/-- **How an id is spelled does not matter.**  In a run of operations, from any store, the ids of rooms,
users and records are spelled in another way, each time in one of its own: the digits in another case,
the white space around them more or less or none.  All operations have the results that they had, the
errors and the ids in them included, and the store at the end is the same. -/
theorem run_respelled {ops others : List Operation}
    (h : List.Forall₂ Operation.Respelled ops others) (s : Store) : s.run ops = s.run others := by
  induction h generalizing s with
  | nil => rfl
  | @cons op other ops others hstep _ ih =>
    rw [run_cons, run_cons, step_respelled hstep, ih]

/-- A record is created, looked for in the wrong room, and deleted in its own, with white space and
capitals here and there.  A text that is no id is refused in both runs. -/
theorem run_respelled_capitals :
    let id : RecordId := .stamped 0 0 0xab
    let ops (room room' idText refused : String) : List Operation := [
      .create id room "000000000000000000000001" "first" 1, .listInRooms [room', room],
      .update "5f1e0c9a2b3c4d5e6f708193" idText "lost" 2, .delete room' idText,
      .deleteAll refused]
    let small := ops "5f1e0c9a2b3c4d5e6f708192" "5f1e0c9a2b3c4d5e6f708192"
      "0000000000000000000000ab" " no id"
    let mixed := ops " 5F1E0C9A2B3C4D5E6F708192\n" "\u30005f1e0C9a2B3c4D5e6F708192"
      "0000000000000000000000Ab " " no id"
    let r : Record :=
      ⟨id, .stamped 0x5f1e0c9a 0x2b3c4d5e 0x6f708192, .stamped 0 0 1, "first", 1, none⟩
    List.Forall₂ Operation.Respelled small mixed ∧ Store.run {} small = Store.run {} mixed ∧
      (Store.run {} mixed).1 = [.ok (.record r), .ok (.records [r]),
        .error (.notFound (.stamped 0x5f1e0c9a 0x2b3c4d5e 0x6f708193) id), .ok .done,
        .error (.invalidId "no id")] := by
  intro id ops small mixed r
  have hspelled {text other : String} (id : RecordId)
      (h : normalize text = .ok id ∧ normalize other = .ok id) : Respells text other :=
    .inr ⟨id, normalize_eq_ok_iff.mp h.1, normalize_eq_ok_iff.mp h.2⟩
  have hroom : Respells "5f1e0c9a2b3c4d5e6f708192" " 5F1E0C9A2B3C4D5E6F708192\n" :=
    hspelled (.stamped 0x5f1e0c9a 0x2b3c4d5e 0x6f708192) (by decide +kernel)
  have hroom' : Respells "5f1e0c9a2b3c4d5e6f708192" "\u30005f1e0C9a2B3c4D5e6F708192" :=
    hspelled (.stamped 0x5f1e0c9a 0x2b3c4d5e 0x6f708192) (by decide +kernel)
  have hid : Respells "0000000000000000000000ab" "0000000000000000000000Ab " :=
    hspelled id (by decide +kernel)
  have hrespelled : List.Forall₂ Operation.Respelled small mixed :=
    .cons (.create id hroom (.inl rfl) "first" 1) (.cons (.listInRooms (.cons hroom' (.cons hroom .nil)))
      (.cons (.update (.inl rfl) hid "lost" 2) (.cons (.delete hroom' hid)
        (.cons (.deleteAll (.inl rfl)) .nil))))
  exact ⟨hrespelled, run_respelled hrespelled {}, by decide +kernel⟩

end Store

end TexCompletion
