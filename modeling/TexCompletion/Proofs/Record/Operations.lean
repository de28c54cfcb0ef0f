import Mathlib.Data.List.Nodup
import TexCompletion.Proofs.Except
import TexCompletion.Record.Store

/-!
# What an operation on records does

Every operation reads the ids it is given and then does one thing to the records: `create` puts one at
the end, `update` replaces the first one that it names, `delete` and `deleteAll` take out all that they
name.  There is one lemma for each of them, which says when it succeeds and what it leaves.  `Outcome` puts
them together: it lists all that a step can come to, and what holds after every step is shown case by case
of it (`outcome_step`).  Whether a step succeeds depends on the records and the texts alone
(`step_fst_ok_iff`).

To replace the first and to take out all is done to the same record if no two records have one id.
`update_of_split` and `delete_of_split` say so for a list in which a record is singled out
(`exists_split_of_mem`).
-/

namespace TexCompletion.Store

open RecordId (normalize)

/-! ## Replacing the first -/

section ReplaceFirst

variable {α : Type} {p : α → Bool} {f : α → α}

/-- The first element that satisfies the predicate is replaced where it stands. -/
theorem replaceFirst?_eq_some_iff {as bs : List α} :
    replaceFirst? p f as = some bs ↔
      ∃ front a back, as = front ++ a :: back ∧ (∀ b ∈ front, p b = false) ∧ p a = true ∧
        bs = front ++ f a :: back := by
  induction as generalizing bs with
  | nil => simp [replaceFirst?]
  | cons a as ih =>
    rw [replaceFirst?]
    cases h : p a with
    | true =>
      constructor
      · intro hbs
        exact ⟨[], a, as, rfl, by simp, h, (Option.some.inj hbs).symm⟩
      · rintro ⟨front, b, back, heq, hfront, hb, rfl⟩
        cases front with
        | nil =>
          obtain ⟨rfl, rfl⟩ := List.cons.inj heq
          rfl
        | cons c front =>
          obtain ⟨rfl, -⟩ := List.cons.inj heq
          simp [h] at hfront
    | false =>
      simp only [Bool.false_eq_true, if_false, Option.map_eq_some_iff, ih]
      constructor
      · rintro ⟨cs, ⟨front, b, back, rfl, hfront, hb, rfl⟩, rfl⟩
        exact ⟨a :: front, b, back, rfl, List.forall_mem_cons.mpr ⟨h, hfront⟩, hb, rfl⟩
      · rintro ⟨front, b, back, heq, hfront, hb, rfl⟩
        cases front with
        | nil =>
          obtain ⟨rfl, rfl⟩ := List.cons.inj heq
          rw [hb] at h
          cases h
        | cons c front =>
          obtain ⟨rfl, rfl⟩ := List.cons.inj heq
          exact ⟨_, ⟨front, b, back, rfl, (List.forall_mem_cons.mp hfront).2, hb, rfl⟩, rfl⟩

/-- Nothing is replaced exactly if nothing satisfies the predicate. -/
theorem replaceFirst?_eq_none_iff {as : List α} :
    replaceFirst? p f as = none ↔ ∀ a ∈ as, p a = false := by
  induction as with
  | nil => simp [replaceFirst?]
  | cons a as ih => cases h : p a <;> simp [replaceFirst?, h, ih]

end ReplaceFirst

/-! ## The operations -/

variable {s s' : Store}

/-- A record is created in a room by a user, both given by texts that are ids, and goes to the end. -/
theorem create_eq_ok_iff {id : RecordId} {room user content : String} {timestamp : Int}
    {r : Record} :
    s.create id room user content timestamp = .ok (r, s') ↔
      ∃ roomId userId, normalize room = .ok roomId ∧ normalize user = .ok userId ∧
        r = ⟨id, roomId, userId, content, timestamp, none⟩ ∧ s' = ⟨s.records ++ [r]⟩ := by
  simp only [create, bind_eq_ok_iff, pure, Except.pure, Except.ok.injEq, Prod.mk.injEq]
  constructor
  · rintro ⟨roomId, hroom, userId, huser, rfl, rfl⟩
    exact ⟨roomId, userId, hroom, huser, rfl, rfl⟩
  · rintro ⟨roomId, userId, hroom, huser, rfl, rfl⟩
    exact ⟨roomId, hroom, userId, huser, rfl, rfl⟩

/-- The content of the first record of that name is replaced. -/
theorem update_eq_ok_iff {room id content : String} {timestamp : Int} :
    s.update room id content timestamp = .ok s' ↔
      ∃ roomId recordId, normalize room = .ok roomId ∧ normalize id = .ok recordId ∧
        replaceFirst? (isNamed roomId recordId)
          (fun r => { r with content, editedAt := some timestamp }) s.records = some s'.records := by
  simp only [update, bind_eq_ok_iff]
  constructor
  · rintro ⟨roomId, hroom, recordId, hid, h⟩
    refine ⟨roomId, recordId, hroom, hid, ?_⟩
    split at h
    next records hrecords => rw [hrecords, ← Except.ok.inj h]
    next => cases h
  · rintro ⟨roomId, recordId, hroom, hid, h⟩
    refine ⟨roomId, hroom, recordId, hid, ?_⟩
    rw [h]
    rfl

/-- All records of that name are taken out, and there is one. -/
theorem delete_eq_ok_iff {room id : String} :
    s.delete room id = .ok s' ↔
      ∃ roomId recordId, normalize room = .ok roomId ∧ normalize id = .ok recordId ∧
        (∃ r ∈ s.records, isNamed roomId recordId r = true) ∧
        s' = ⟨s.records.filter (!isNamed roomId recordId ·)⟩ := by
  simp only [delete, bind_eq_ok_iff, ← List.any_eq_true]
  constructor
  · rintro ⟨roomId, hroom, recordId, hid, h⟩
    refine ⟨roomId, recordId, hroom, hid, ?_⟩
    split at h
    next hany => exact ⟨hany, (Except.ok.inj h).symm⟩
    next => cases h
  · rintro ⟨roomId, recordId, hroom, hid, hany, rfl⟩
    exact ⟨roomId, hroom, recordId, hid, if_pos hany⟩

/-- All records of the room are taken out. -/
theorem deleteAll_eq_ok_iff {room : String} :
    s.deleteAll room = .ok s' ↔
      ∃ roomId, normalize room = .ok roomId ∧ s' = ⟨s.records.filter (·.room ≠ roomId)⟩ := by
  simp only [deleteAll, bind_eq_ok_iff, pure, Except.pure, Except.ok.injEq]
  exact exists_congr fun roomId => and_congr_right fun _ => eq_comm

/-! ## What a step comes to -/

/-- The results that an operation can have, each with the store that it leaves. -/
inductive Outcome (s : Store) : Operation → Except RecordError Reply × Store → Prop
  | failed (op : Operation) (error : RecordError) : Outcome s op (.error error, s)
  | listed (room : String) (limit : Nat) (before : Option Int) (records : List Record) :
    Outcome s (.list room limit before) (.ok (.records records), s)
  | picked (rooms : List String) (records : List Record) :
    Outcome s (.listInRooms rooms) (.ok (.records records), s)
  | created {room user : String} {r : Record} (hroom : normalize room = .ok r.room)
    (huser : normalize user = .ok r.user) (hedited : r.editedAt = none) :
    Outcome s (.create r.id room user r.content r.timestamp)
      (.ok (.record r), ⟨s.records ++ [r]⟩)
  | updated {roomText idText content : String} {timestamp : Int} {room id : RecordId}
    {records : List Record} (hroom : normalize roomText = .ok room) (hid : normalize idText = .ok id)
    (hreplaced : replaceFirst? (isNamed room id)
      (fun r => { r with content, editedAt := some timestamp }) s.records = some records) :
    Outcome s (.update roomText idText content timestamp) (.ok .done, ⟨records⟩)
  | deleted {roomText idText : String} {room id : RecordId} (hroom : normalize roomText = .ok room)
    (hid : normalize idText = .ok id) :
    Outcome s (.delete roomText idText) (.ok .done, ⟨s.records.filter (!isNamed room id ·)⟩)
  | emptied {roomText : String} {room : RecordId} (hroom : normalize roomText = .ok room) :
    Outcome s (.deleteAll roomText) (.ok .done, ⟨s.records.filter (·.room ≠ room)⟩)

/-- A step comes to one of these. -/
theorem outcome_step (s : Store) (op : Operation) : Outcome s op (s.step op) := by
  cases op with
  | create id room user content timestamp =>
    rw [step]
    cases h : s.create id room user content timestamp with
    | error error => exact .failed _ error
    | ok result =>
      obtain ⟨r, s'⟩ := result
      obtain ⟨roomId, userId, hroom, huser, rfl, rfl⟩ := create_eq_ok_iff.mp h
      exact .created (r := ⟨id, roomId, userId, content, timestamp, none⟩) hroom huser rfl
  | list room limit before =>
    rw [step]
    cases s.list room limit before with
    | error error => exact .failed _ error
    | ok records => exact .listed room limit before records
  | listInRooms rooms =>
    rw [step]
    cases s.listInRooms rooms with
    | error error => exact .failed _ error
    | ok records => exact .picked rooms records
  | update room id content timestamp =>
    rw [step]
    cases h : s.update room id content timestamp with
    | error error => exact .failed _ error
    | ok s' =>
      obtain ⟨roomId, recordId, hroom, hid, hreplaced⟩ := update_eq_ok_iff.mp h
      exact .updated hroom hid hreplaced
  | delete room id =>
    rw [step]
    cases h : s.delete room id with
    | error error => exact .failed _ error
    | ok s' =>
      obtain ⟨roomId, recordId, hroom, hid, -, rfl⟩ := delete_eq_ok_iff.mp h
      exact .deleted hroom hid
  | deleteAll room =>
    rw [step]
    cases h : s.deleteAll room with
    | error error => exact .failed _ error
    | ok s' =>
      obtain ⟨roomId, hroom, rfl⟩ := deleteAll_eq_ok_iff.mp h
      exact .emptied hroom

/-! ## When a step succeeds -/

/-- The operation can be performed on these records: its texts are ids, and if it is about one record,
there is a record of that room and id. -/
def Operation.Applies (records : List Record) : Operation → Prop
  | .create _ room user .. => (∃ id, normalize room = .ok id) ∧ ∃ id, normalize user = .ok id
  | .list room .. => ∃ id, normalize room = .ok id
  | .listInRooms rooms => ∀ room ∈ rooms, ∃ id, normalize room = .ok id
  | .update room id .. => ∃ r ∈ records, normalize room = .ok r.room ∧ normalize id = .ok r.id
  | .delete room id => ∃ r ∈ records, normalize room = .ok r.room ∧ normalize id = .ok r.id
  | .deleteAll room => ∃ id, normalize room = .ok id

theorem isNamed_self (r : Record) : isNamed r.room r.id r = true := by
  simp [isNamed]

/-- A record is found by its texts exactly if it is found by the ids that they are read as. -/
theorem exists_isNamed_iff {room id : String} :
    (∃ roomId recordId, normalize room = .ok roomId ∧ normalize id = .ok recordId ∧
        ∃ r ∈ s.records, isNamed roomId recordId r = true) ↔
      ∃ r ∈ s.records, normalize room = .ok r.room ∧ normalize id = .ok r.id := by
  constructor
  · rintro ⟨roomId, recordId, hroom, hid, r, hr, hnamed⟩
    obtain ⟨rfl, rfl⟩ := of_decide_eq_true hnamed
    exact ⟨r, hr, hroom, hid⟩
  · rintro ⟨r, hr, hroom, hid⟩
    exact ⟨r.room, r.id, hroom, hid, r, hr, isNamed_self r⟩

theorem exists_update_eq_ok_iff {room id content : String} {timestamp : Int} :
    (∃ s', s.update room id content timestamp = .ok s') ↔
      ∃ r ∈ s.records, normalize room = .ok r.room ∧ normalize id = .ok r.id := by
  rw [← exists_isNamed_iff]
  simp only [update_eq_ok_iff]
  constructor
  · rintro ⟨s', roomId, recordId, hroom, hid, h⟩
    obtain ⟨front, r, back, hs, -, hr, -⟩ := replaceFirst?_eq_some_iff.mp h
    exact ⟨roomId, recordId, hroom, hid, r, by simp [hs], hr⟩
  · rintro ⟨roomId, recordId, hroom, hid, r, hr, hnamed⟩
    cases h : replaceFirst? (isNamed roomId recordId)
        (fun r => { r with content, editedAt := some timestamp }) s.records with
    | none =>
      rw [replaceFirst?_eq_none_iff.mp h r hr] at hnamed
      cases hnamed
    | some records => exact ⟨⟨records⟩, roomId, recordId, hroom, hid, h⟩

theorem exists_delete_eq_ok_iff {room id : String} :
    (∃ s', s.delete room id = .ok s') ↔
      ∃ r ∈ s.records, normalize room = .ok r.room ∧ normalize id = .ok r.id := by
  rw [← exists_isNamed_iff]
  simp only [delete_eq_ok_iff]
  constructor
  · rintro ⟨-, roomId, recordId, hroom, hid, hnamed, -⟩
    exact ⟨roomId, recordId, hroom, hid, hnamed⟩
  · rintro ⟨roomId, recordId, hroom, hid, hnamed⟩
    exact ⟨_, roomId, recordId, hroom, hid, hnamed, rfl⟩

theorem exists_reading_fst_eq_ok_iff {rs : Except RecordError (List Record)} :
    (∃ reply, (s.reading rs).1 = .ok reply) ↔ ∃ records, rs = .ok records := by
  cases rs <;> simp [reading, Functor.map, Except.map]

theorem exists_changing_fst_eq_ok_iff {result : Except RecordError Store} :
    (∃ reply, (s.changing result).1 = .ok reply) ↔ ∃ s', result = .ok s' := by
  cases result <;> simp [changing]

/-- **When a step succeeds** can be told from the records, without performing it. -/
theorem step_fst_ok_iff {op : Operation} :
    (∃ reply, (s.step op).1 = .ok reply) ↔ op.Applies s.records := by
  cases op with
  | create id room user content timestamp =>
    rw [step, create, Operation.Applies]
    cases normalize room <;> cases normalize user <;> simp [bind, Except.bind, pure, Except.pure]
  | list room limit before =>
    rw [step, exists_reading_fst_eq_ok_iff, list, Operation.Applies]
    cases normalize room <;> simp [bind, Except.bind, pure, Except.pure]
  | listInRooms rooms =>
    rw [step, exists_reading_fst_eq_ok_iff, listInRooms, Operation.Applies, ← exists_mapM_eq_ok_iff]
    cases rooms.mapM normalize <;> simp [bind, Except.bind, pure, Except.pure]
  | update room id content timestamp =>
    rw [step, exists_changing_fst_eq_ok_iff, exists_update_eq_ok_iff, Operation.Applies]
  | delete room id =>
    rw [step, exists_changing_fst_eq_ok_iff, exists_delete_eq_ok_iff, Operation.Applies]
  | deleteAll room =>
    rw [step, exists_changing_fst_eq_ok_iff, Operation.Applies]
    simp only [deleteAll_eq_ok_iff]
    constructor
    · rintro ⟨-, roomId, hroom, -⟩
      exact ⟨roomId, hroom⟩
    · rintro ⟨roomId, hroom⟩
      exact ⟨_, roomId, hroom, rfl⟩

/-! ## Records that are told apart by their ids -/

/-- If no two records have one id, none of the others has the id of a record. -/
theorem id_ne_of_nodup {front back : List Record} {r : Record}
    (unique : ((front ++ r :: back).map Record.id).Nodup) :
    ∀ other ∈ front ++ back, other.id ≠ r.id := by
  rw [List.map_append, List.map_cons, List.nodup_middle, List.nodup_cons, ← List.map_append] at unique
  exact fun other hother heq => unique.1 (heq ▸ List.mem_map_of_mem hother)

/-- So every record can be singled out. -/
theorem exists_split_of_mem {records : List Record} (unique : (records.map Record.id).Nodup)
    {r : Record} (h : r ∈ records) :
    ∃ front back, records = front ++ r :: back ∧ ∀ other ∈ front ++ back, other.id ≠ r.id := by
  obtain ⟨front, back, rfl⟩ := List.append_of_mem h
  exact ⟨front, back, rfl, id_ne_of_nodup unique⟩

theorem isNamed_eq_false {r other : Record} (h : other.id ≠ r.id) :
    isNamed r.room r.id other = false := by
  simp [isNamed, h]

section Split

variable {front back : List Record} {r : Record} {room id : String}

/-- An update changes the record that is singled out, in its place. -/
theorem update_of_split (alone : ∀ other ∈ front ++ back, other.id ≠ r.id)
    (hroom : normalize room = .ok r.room) (hid : normalize id = .ok r.id) (content : String)
    (timestamp : Int) :
    Store.update ⟨front ++ r :: back⟩ room id content timestamp =
      .ok ⟨front ++ { r with content, editedAt := some timestamp } :: back⟩ := by
  refine update_eq_ok_iff.mpr ⟨r.room, r.id, hroom, hid, replaceFirst?_eq_some_iff.mpr
    ⟨front, r, back, rfl, fun other hother => ?_, isNamed_self r, rfl⟩⟩
  exact isNamed_eq_false (alone other (List.mem_append_left back hother))

/-- To delete it takes out the record that is singled out, and no other. -/
theorem delete_of_split (alone : ∀ other ∈ front ++ back, other.id ≠ r.id)
    (hroom : normalize room = .ok r.room) (hid : normalize id = .ok r.id) :
    Store.delete ⟨front ++ r :: back⟩ room id = .ok ⟨front ++ back⟩ := by
  refine delete_eq_ok_iff.mpr ⟨r.room, r.id, hroom, hid, ⟨r, by simp, isNamed_self r⟩, ?_⟩
  have hothers : (front ++ back).filter (!isNamed r.room r.id ·) = front ++ back :=
    List.filter_eq_self.mpr fun other hother => by simp [isNamed_eq_false (alone other hother)]
  rw [List.filter_append, List.filter_cons_of_neg (by simp [isNamed_self]), ← List.filter_append,
    hothers]

end Split

end TexCompletion.Store
