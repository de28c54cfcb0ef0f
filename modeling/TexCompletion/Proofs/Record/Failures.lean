import TexCompletion.Proofs.Record.Spelling
import TexCompletion.Record.InPlace

/-!
# How an operation on records fails

An operation first reads the texts that it takes for ids, and the first that is no id ends it
(`FirstInvalid`).  After that only an update or a deletion can fail, namely of a record that is not stored
(`NotStored`).  There is one lemma for each operation that says so, and `step_fst_eq_error_iff` puts them
together.

That an operation that fails changes nothing is a matter of how it works on the records, since nothing is
put back: `Operation.inPlace` finds some failures after it has begun.  `run_inPlace` shows that this comes
to the same as a step of the store.  A deletion that fails has made its whole pass over the records, but
the pass that leaves as many as there were has left all of them.  The main statement is
`failure_of_operation`.
-/

namespace TexCompletion

open Text

namespace RecordId

/-- The text spells some id. -/
def IsValid (text : String) : Prop :=
  ∃ id : RecordId, id.IsSpelling text

theorem isValid_iff {text : String} : IsValid text ↔ ∃ id, normalize text = .ok id :=
  exists_congr fun _ => normalize_eq_ok_iff.symm

/-- A text that is no id is refused without the white space around it. -/
theorem normalize_eq_error_iff {text : String} {error : RecordError} :
    normalize text = .error error ↔ ¬IsValid text ∧ error = .invalidId (trim text) := by
  rw [isValid_iff, normalize, parse]
  cases ofDigits? (trim text).toList <;> simp [eq_comm]

/-- The error names the first text that is no id. -/
def FirstInvalid (texts : List String) (error : RecordError) : Prop :=
  ∃ front text back, texts = front ++ text :: back ∧ (∀ other ∈ front, IsValid other) ∧
    ¬IsValid text ∧ error = .invalidId (trim text)

theorem not_firstInvalid_nil {error : RecordError} : ¬FirstInvalid [] error := by
  rintro ⟨front, text, back, h, -⟩
  simp at h

theorem firstInvalid_cons {text : String} {texts : List String} {error : RecordError} :
    FirstInvalid (text :: texts) error ↔
      normalize text = .error error ∨ IsValid text ∧ FirstInvalid texts error := by
  rw [normalize_eq_error_iff]
  constructor
  · rintro ⟨front, other, back, h, hfront, hother⟩
    cases front with
    | nil =>
      obtain ⟨rfl, rfl⟩ := List.cons.inj h
      exact .inl hother
    | cons first front =>
      obtain ⟨rfl, rfl⟩ := List.cons.inj h
      obtain ⟨hfirst, hfront⟩ := List.forall_mem_cons.mp hfront
      exact .inr ⟨hfirst, front, other, back, rfl, hfront, hother⟩
  · rintro (h | ⟨hfirst, front, other, back, rfl, hfront, hother⟩)
    · exact ⟨[], text, texts, rfl, nofun, h⟩
    · exact ⟨text :: front, other, back, rfl, List.forall_mem_cons.mpr ⟨hfirst, hfront⟩, hother⟩

/-- Texts are read from the first to the last, and the first that is no id ends the reading. -/
theorem mapM_normalize_eq_error_iff {texts : List String} {error : RecordError} :
    texts.mapM normalize = .error error ↔ FirstInvalid texts error := by
  induction texts with
  | nil => exact iff_of_false nofun not_firstInvalid_nil
  | cons text texts ih =>
    rw [firstInvalid_cons, ← ih, isValid_iff, List.mapM_cons]
    cases normalize text with
    | error first => simp [bind, Except.bind]
    | ok id => cases texts.mapM normalize <;> simp [bind, Except.bind, pure, Except.pure]

/-- There is such an error exactly if one of the texts is no id. -/
theorem exists_firstInvalid_iff {texts : List String} :
    (∃ error, FirstInvalid texts error) ↔ ∃ text ∈ texts, ¬IsValid text := by
  constructor
  · rintro ⟨error, front, text, back, rfl, -, hinvalid, -⟩
    exact ⟨text, by simp, hinvalid⟩
  · intro h
    induction texts with
    | nil => simp at h
    | cons text texts ih =>
      simp only [firstInvalid_cons]
      by_cases hvalid : IsValid text
      · obtain ⟨error, herror⟩ := ih (by simpa [hvalid] using h)
        exact ⟨error, .inr ⟨hvalid, herror⟩⟩
      · exact ⟨_, .inl (normalize_eq_error_iff.mpr ⟨hvalid, rfl⟩)⟩

end RecordId

namespace Store

open RecordId (IsValid FirstInvalid normalize normalize_eq_ok_iff isValid_iff firstInvalid_cons
  not_firstInvalid_nil)

namespace Operation

/-- The texts that an operation takes for ids, in the order in which it reads them. -/
def idTexts : Operation → List String
  | .create _ room user .. => [room, user]
  | .list room .. => [room]
  | .listInRooms rooms => rooms
  | .update room id .. => [room, id]
  | .delete room id => [room, id]
  | .deleteAll room => [room]

/-- The texts for the room and the id of the one record that an operation is about, if it is about
one. -/
def recordTexts? : Operation → Option (String × String)
  | .update room id .. => some (room, id)
  | .delete room id => some (room, id)
  | _ => none

end Operation

/-- The texts spell a room and an id, but no record has both, and the error names them. -/
def NotStored (s : Store) (room id : String) (error : RecordError) : Prop :=
  ∃ roomId recordId : RecordId, roomId.IsSpelling room ∧ recordId.IsSpelling id ∧
    (∀ r ∈ s.records, r.room = roomId → r.id ≠ recordId) ∧ error = .notFound roomId recordId

/-! ## When an operation fails -/

section Fails

variable {s : Store} {room id user content : String} {newId : RecordId} {timestamp : Int}
  {error : RecordError}

theorem create_eq_error_iff :
    s.create newId room user content timestamp = .error error ↔ FirstInvalid [room, user] error := by
  simp only [create, bind_eq_error_iff, firstInvalid_cons, not_firstInvalid_nil, isValid_iff,
    pure_ne_error, and_false, exists_false, or_false, exists_and_right]

theorem list_eq_error_iff {limit : Nat} {before : Option Int} :
    s.list room limit before = .error error ↔ FirstInvalid [room] error := by
  simp only [list, bind_eq_error_iff, firstInvalid_cons, not_firstInvalid_nil, pure_ne_error,
    and_false, exists_false, or_false]

theorem listInRooms_eq_error_iff {rooms : List String} :
    s.listInRooms rooms = .error error ↔ FirstInvalid rooms error := by
  simp only [listInRooms, bind_eq_error_iff, RecordId.mapM_normalize_eq_error_iff, pure_ne_error,
    and_false, exists_false, or_false]

theorem deleteAll_eq_error_iff : s.deleteAll room = .error error ↔ FirstInvalid [room] error := by
  simp only [deleteAll, bind_eq_error_iff, firstInvalid_cons, not_firstInvalid_nil, pure_ne_error,
    and_false, exists_false, or_false]

theorem isNamed_eq_false_iff {room id : RecordId} {r : Record} :
    isNamed room id r = false ↔ (r.room = room → r.id ≠ id) := by
  rw [isNamed, decide_eq_false_iff_not, and_comm, not_and]

/-- What is done to a named record fails if one of the two texts is no id, or else if it fails for the
ids that the texts spell. -/
theorem named_eq_error_iff {α : Type} {f : RecordId → RecordId → Except RecordError α} :
    (normalize room >>= fun roomId => normalize id >>= f roomId) = .error error ↔
      FirstInvalid [room, id] error ∨ ∃ roomId recordId,
        normalize room = .ok roomId ∧ normalize id = .ok recordId ∧
          f roomId recordId = .error error := by
  simp only [bind_eq_error_iff, firstInvalid_cons, not_firstInvalid_nil, isValid_iff, and_false,
    or_false, and_or_left, exists_or, exists_and_right, exists_and_left, or_assoc]

theorem update_eq_error_iff :
    s.update room id content timestamp = .error error ↔
      FirstInvalid [room, id] error ∨ s.NotStored room id error := by
  rw [update, named_eq_error_iff]
  refine or_congr_right (exists_congr fun roomId => exists_congr fun recordId => ?_)
  rw [normalize_eq_ok_iff, normalize_eq_ok_iff]
  refine and_congr_right fun _ => and_congr_right fun _ => ?_
  have hnone := @replaceFirst?_eq_none_iff _ (isNamed roomId recordId)
    (fun r => { r with content, editedAt := some timestamp }) s.records
  simp only [← isNamed_eq_false_iff, ← hnone]
  cases replaceFirst? (isNamed roomId recordId) _ s.records with
  | none => exact throw_eq_error_iff.trans (and_iff_right rfl).symm
  | some records =>
    refine iff_of_false pure_ne_error ?_
    rintro ⟨hnone, -⟩
    cases hnone

theorem delete_eq_error_iff :
    s.delete room id = .error error ↔
      FirstInvalid [room, id] error ∨ s.NotStored room id error := by
  rw [delete, named_eq_error_iff]
  refine or_congr_right (exists_congr fun roomId => exists_congr fun recordId => ?_)
  rw [normalize_eq_ok_iff, normalize_eq_ok_iff]
  refine and_congr_right fun _ => and_congr_right fun _ => ?_
  simp only [← isNamed_eq_false_iff]
  cases hany : s.records.any (isNamed roomId recordId) with
  | true =>
    obtain ⟨r, hr, hnamed⟩ := List.any_eq_true.mp hany
    refine iff_of_false pure_ne_error ?_
    rintro ⟨hnone, -⟩
    rw [hnone r hr] at hnamed
    cases hnamed
  | false =>
    have hnone : ∀ r ∈ s.records, isNamed roomId recordId r = false := by simpa using hany
    exact throw_eq_error_iff.trans (and_iff_right hnone).symm

theorem reading_fst_eq_error_iff {rs : Except RecordError (List Record)} :
    (s.reading rs).1 = .error error ↔ rs = .error error := by
  cases rs <;> simp [reading, Functor.map, Except.map]

theorem changing_fst_eq_error_iff {result : Except RecordError Store} :
    (s.changing result).1 = .error error ↔ result = .error error := by
  cases result <;> simp [changing]

/-- An operation fails if one of its texts is no id, or else if the record that it is about is not
stored. -/
theorem step_fst_eq_error_iff {op : Operation} :
    (s.step op).1 = .error error ↔ FirstInvalid op.idTexts error ∨
      ∃ texts ∈ op.recordTexts?, s.NotStored texts.1 texts.2 error := by
  cases op with
  | create id room user content timestamp =>
    have hfst : (s.step (.create id room user content timestamp)).1 = .error error ↔
        s.create id room user content timestamp = .error error := by
      rw [step]
      cases s.create id room user content timestamp <;> simp
    rw [hfst, create_eq_error_iff]
    simp [Operation.idTexts, Operation.recordTexts?]
  | list room limit before =>
    rw [step, reading_fst_eq_error_iff, list_eq_error_iff]
    simp [Operation.idTexts, Operation.recordTexts?]
  | listInRooms rooms =>
    rw [step, reading_fst_eq_error_iff, listInRooms_eq_error_iff]
    simp [Operation.idTexts, Operation.recordTexts?]
  | update room id content timestamp =>
    rw [step, changing_fst_eq_error_iff, update_eq_error_iff]
    simp [Operation.idTexts, Operation.recordTexts?]
  | delete room id =>
    rw [step, changing_fst_eq_error_iff, delete_eq_error_iff]
    simp [Operation.idTexts, Operation.recordTexts?]
  | deleteAll room =>
    rw [step, changing_fst_eq_error_iff, deleteAll_eq_error_iff]
    simp [Operation.idTexts, Operation.recordTexts?]

end Fails

/-! ## What an operation that fails leaves -/

section InPlace

variable {s : Store} {op : Operation} {room id : RecordId}

/-- To replace the first is to look for its index and to change what is there. -/
theorem replaceFirst?_eq_map_findIdx? {α : Type} (p : α → Bool) (f : α → α) (as : List α) :
    replaceFirst? p f as = (as.findIdx? p).map (as.modify · f) := by
  induction as with
  | nil => rfl
  | cons a as ih =>
    cases h : p a with
    | true => simp [replaceFirst?, List.findIdx?_cons, h]
    | false => simp [replaceFirst?, List.findIdx?_cons, h, ih, Function.comp_def]

/-- A pass that takes out what is named leaves as many records as there were exactly if nothing is. -/
theorem length_pass_eq_iff :
    (s.records.filter (!isNamed room id ·)).length = s.records.length ↔
      s.records.any (isNamed room id) = false := by
  rw [List.length_filter_eq_length_iff, List.any_eq_false]
  simp

/-- In place as well, reading returns what is read or fails, and leaves the records. -/
theorem run_inPlace_reading (read : Store → Except RecordError (List Record))
    (records : List Record) :
    (do return .records (← read ⟨← get⟩) : InPlace Reply).run.run records =
      (Reply.records <$> read ⟨records⟩, records) := by
  have hrun (rs : Except RecordError (List Record)) :
      (do return .records (← rs) : InPlace Reply).run.run records =
        (Reply.records <$> rs, records) := by
    cases rs <;> rfl
  exact hrun (read ⟨records⟩)

/-- The part of an update behind the search for the record. -/
theorem run_inPlace_edit (f : Record → Record) (found : Option Nat) (records : List Record) :
    (match found with
      | none => throw (.notFound room id)
      | some i => do
        modify (List.modify · i f)
        return .done : InPlace Reply).run.run records =
    match found with
    | none => (.error (.notFound room id), records)
    | some i => (.ok .done, records.modify i f) := by
  cases found <;> rfl

/-- The part of a deletion behind the pass over the records.  What the pass has left is there in both
cases. -/
theorem run_inPlace_check (count : Nat) (left : List Record) :
    (if left.length = count then throw (.notFound room id) else return .done : InPlace Reply).run.run
      left =
    if left.length = count then (.error (.notFound room id), left) else (.ok .done, left) := by
  split <;> rfl

/-- **In place the operations do what they do to a store.** -/
theorem run_inPlace (s : Store) (op : Operation) :
    op.inPlace.run.run s.records = ((s.step op).1, (s.step op).2.records) := by
  cases op with
  | create id room user content timestamp =>
    rw [step, create, Operation.inPlace]
    cases normalize room with
    | error => rfl
    | ok roomId => cases normalize user <;> rfl
  | list room limit before => exact run_inPlace_reading (·.list room limit before) s.records
  | listInRooms rooms => exact run_inPlace_reading (·.listInRooms rooms) s.records
  | update room id content timestamp =>
    rw [step, update, Operation.inPlace]
    cases normalize room with
    | error => rfl
    | ok roomId =>
      cases normalize id with
      | error => rfl
      | ok recordId =>
        refine (run_inPlace_edit _ _ s.records).trans ?_
        simp only [bind, Except.bind, replaceFirst?_eq_map_findIdx?]
        cases s.records.findIdx? (isNamed roomId recordId) <;> rfl
  | delete room id =>
    rw [step, delete, Operation.inPlace]
    cases normalize room with
    | error => rfl
    | ok roomId =>
      cases normalize id with
      | error => rfl
      | ok recordId =>
        refine (run_inPlace_check s.records.length _).trans ?_
        simp only [bind, Except.bind, length_pass_eq_iff]
        cases hany : s.records.any (isNamed roomId recordId) with
        | true => rfl
        | false =>
          -- The pass is over, but it has taken nothing out.
          have hleft : s.records.filter (!isNamed roomId recordId ·) = s.records :=
            List.filter_eq_self.mpr (by simpa using hany)
          rw [hleft]
          rfl
  | deleteAll room =>
    rw [step, deleteAll, Operation.inPlace]
    cases normalize room <;> rfl

/-- A store is not changed by what fails. -/
theorem step_snd_of_error {error : RecordError} (h : (s.step op).1 = .error error) :
    (s.step op).2 = s := by
  have houtcome := outcome_step s op
  generalize s.step op = result at h houtcome ⊢
  cases houtcome with
  | failed => rfl
  | listed => rfl
  | picked => rfl
  | _ => cases h

/-- **How an operation fails.**  Whatever the records and the arguments are, an operation fails exactly if
a text that it takes for an id is none, and then names the first such text, in the order room, then
user or id, or that of the rooms of a list; or if it is to update or delete a record and its texts are
ids, but no record has both, and then names the two ids.  The records that it has worked on in place are
those of before in the same order, and so is the store that is returned. -/
theorem failure_of_operation (s : Store) (op : Operation) :
    let worked := op.inPlace.run.run s.records
    s.step op = (worked.1, ⟨worked.2⟩) ∧
    ((∃ text, worked.1 = .error (.invalidId text)) ↔ ∃ text ∈ op.idTexts, ¬IsValid text) ∧
    (∀ refused, worked.1 = .error (.invalidId refused) ↔
      ∃ front text back, op.idTexts = front ++ text :: back ∧ (∀ other ∈ front, IsValid other) ∧
        ¬IsValid text ∧ refused = trim text) ∧
    (∀ room id, worked.1 = .error (.notFound room id) ↔
      ∃ roomText idText, op.recordTexts? = some (roomText, idText) ∧ room.IsSpelling roomText ∧
        id.IsSpelling idText ∧ ∀ r ∈ s.records, r.room = room → r.id ≠ id) ∧
    ∀ error, worked.1 = .error error → worked.2 = s.records := by
  intro worked
  have hworked : worked = ((s.step op).1, (s.step op).2.records) := run_inPlace s op
  have hfst : worked.1 = (s.step op).1 := congrArg Prod.fst hworked
  have hinvalid (refused : String) :
      worked.1 = .error (.invalidId refused) ↔ FirstInvalid op.idTexts (.invalidId refused) := by
    rw [hfst, step_fst_eq_error_iff]
    exact or_iff_left fun ⟨_, _, _, _, _, _, _, h⟩ => nomatch h
  refine ⟨by rw [hworked], ?_, fun refused => ?_, fun room id => ?_, fun error h => ?_⟩
  · rw [← RecordId.exists_firstInvalid_iff]
    simp only [hinvalid]
    refine ⟨fun ⟨refused, h⟩ => ⟨_, h⟩, fun ⟨error, h⟩ => ?_⟩
    have ⟨_, text, _, _, _, _, herror⟩ := h
    exact ⟨trim text, herror ▸ h⟩
  · simp only [hinvalid, FirstInvalid, RecordError.invalidId.injEq]
  · rw [hfst, step_fst_eq_error_iff]
    constructor
    · rintro (⟨_, _, _, _, _, _, h⟩ | ⟨⟨roomText, idText⟩, htexts, _, _, hroom, hid, hnone, h⟩)
      · cases h
      · obtain ⟨rfl, rfl⟩ := RecordError.notFound.inj h
        exact ⟨roomText, idText, htexts, hroom, hid, hnone⟩
    · rintro ⟨roomText, idText, htexts, hroom, hid, hnone⟩
      exact .inr ⟨(roomText, idText), htexts, room, id, hroom, hid, hnone, rfl⟩
  · rw [hworked, step_snd_of_error (hfst ▸ h)]

end InPlace

end Store

end TexCompletion
