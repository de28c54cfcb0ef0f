import Mathlib.Data.List.Induction
import TexCompletion.Proofs.Record.Operations

/-!
# The records that a history leaves

What a store holds can be read off what was done to it and with what result (`log`), without looking at
any store in between.  `kept` is this reading: the records that were created, in the order of creation,
without those that were removed afterwards, each with its last edit.

The step is the equation `records_step`, one for all operations and for success and failure alike: an
operation takes out the records that it removes, edits the others and puts what it creates at the end.
It needs that no two records of the store have one id, since an update edits only the first record of
its name.  The reading of a longer history takes the same step (`kept_concat`), and its ids are among
those that were made (`ids_kept_sublist`), so distinct ids are all that the induction along the history
needs (`records_run`).  The results in a history are no further information: which operations succeed
follows from what the entries before leave (`ok_of_log_iff`).  The main statement is `records_after_run`.
-/

namespace TexCompletion

/-- The record as an edit leaves it, if there was one: with a new content and the time of the edit. -/
def Record.withEdit (r : Record) : Option (String × Int) → Record
  | some (content, timestamp) => { r with content, editedAt := some timestamp }
  | none => r

/-- Of two edits the later one counts. -/
theorem Record.withEdit_withEdit (r : Record) (first second : Option (String × Int)) :
    (r.withEdit first).withEdit second = r.withEdit (second.or first) := by
  cases first <;> cases second <;> rfl

@[simp] theorem Record.id_withEdit (r : Record) (edit : Option (String × Int)) :
    (r.withEdit edit).id = r.id := by
  cases edit <;> rfl

@[simp] theorem Record.room_withEdit (r : Record) (edit : Option (String × Int)) :
    (r.withEdit edit).room = r.room := by
  cases edit <;> rfl

namespace Store

open RecordId (normalize)

/-! ## Reading a history -/

/-- A text names an id if it is a spelling of it. -/
def names (text : String) (id : RecordId) : Bool :=
  (normalize text).toOption = some id

theorem names_iff {text : String} {id : RecordId} :
    names text id = true ↔ normalize text = .ok id := by
  rw [names, decide_eq_true_iff]
  cases normalize text <;> simp [Except.toOption]

/-- The id that was made for an operation.  Only creations need one, and it is made in any case. -/
def Operation.newId? : Operation → Option RecordId
  | .create id .. => some id
  | _ => none

/-- What was done to a store, and with what result. -/
structure Entry where
  operation : Operation
  result : Except RecordError Reply

namespace Entry

/-- The record that was created. -/
def created? : Entry → Option Record
  | ⟨.create .., .ok (.record r)⟩ => some r
  | _ => none

/-- The entry removes the record of that room and id: it was deleted, or all of its room was, and the
operation succeeded. -/
def removes (room id : RecordId) : Entry → Bool
  | ⟨.delete roomText idText, .ok _⟩ => names roomText room && names idText id
  | ⟨.deleteAll roomText, .ok _⟩ => names roomText room
  | _ => false

/-- The content and the time of an update of the record of that room and id, if it succeeded. -/
def edit? (room id : RecordId) : Entry → Option (String × Int)
  | ⟨.update roomText idText content timestamp, .ok _⟩ =>
    if names roomText room && names idText id then some (content, timestamp) else none
  | _ => none

/-- A record after an entry that does not remove it. -/
def edit (e : Entry) (r : Record) : Record :=
  r.withEdit (e.edit? r.room r.id)

end Entry

/-- What an entry leaves of the records that were there before it: it takes out those that it removes,
edits the others and puts what it creates at the end. -/
def Entry.after (e : Entry) (records : List Record) : List Record :=
  (records.filter fun r => !e.removes r.room r.id).map e.edit ++ e.created?.toList

/-- The operations of a run with their results. -/
def log (s : Store) (ops : List Operation) : List Entry :=
  List.zipWith Entry.mk ops (s.run ops).1

/-- The record is removed by one of the entries since. -/
def isRemoved (since : List Entry) (r : Record) : Bool :=
  since.any (·.removes r.room r.id)

/-- The record as the last of its updates since leaves it. -/
def asLeftBy (since : List Entry) (r : Record) : Record :=
  r.withEdit (since.filterMap (·.edit? r.room r.id)).getLast?

/-- The records that a history leaves: those that were created and not removed since, in order of
creation, each as the last of its updates since leaves it. -/
def kept : List Entry → List Record
  | [] => []
  | e :: since =>
    (e.created?.toList.filter (!isRemoved since ·)).map (asLeftBy since) ++ kept since

/-! ## One operation -/

section Step

variable {e : Entry}

theorem edit_eq_id (hedit : ∀ room id, e.edit? room id = none) : e.edit = id :=
  funext fun r => by rw [Entry.edit, hedit]; rfl

/-- An entry that removes and edits nothing leaves the records there are. -/
theorem after_of_keeps (records : List Record) (hremoves : ∀ room id, e.removes room id = false)
    (hedit : ∀ room id, e.edit? room id = none) :
    e.after records = records ++ e.created?.toList := by
  simp [Entry.after, hremoves, edit_eq_id hedit]

/-- An entry that creates nothing either leaves all as it was. -/
theorem after_of_idle (records : List Record) (hremoves : ∀ room id, e.removes room id = false)
    (hedit : ∀ room id, e.edit? room id = none) (hcreated : e.created? = none) :
    e.after records = records := by
  rw [after_of_keeps records hremoves hedit, hcreated]
  exact List.append_nil records

/-- An entry that edits and creates nothing takes out what it removes. -/
theorem after_of_removal (records : List Record) (hedit : ∀ room id, e.edit? room id = none)
    (hcreated : e.created? = none) :
    e.after records = records.filter fun r => !e.removes r.room r.id := by
  rw [Entry.after, edit_eq_id hedit, hcreated, List.map_id]
  exact List.append_nil _

theorem names_of_ok {text : String} {id : RecordId} (h : normalize text = .ok id)
    (other : RecordId) : names text other = decide (other = id) := by
  rw [Bool.eq_iff_iff, names_iff, h, Except.ok.injEq, decide_eq_true_iff, eq_comm]

/-- A record bears the name of the two texts exactly if they name its room and its id. -/
theorem isNamed_of_ok {roomText idText : String} {room id : RecordId}
    (hroom : normalize roomText = .ok room) (hid : normalize idText = .ok id) (r : Record) :
    isNamed room id r = (names roomText r.room && names idText r.id) := by
  rw [names_of_ok hroom, names_of_ok hid, isNamed, Bool.decide_and, Bool.and_comm]

theorem created?_of_error (op : Operation) (error : RecordError) :
    Entry.created? ⟨op, .error error⟩ = none := by
  cases op <;> rfl

/-- An entry that failed leaves all as it was. -/
theorem after_of_error (records : List Record) (op : Operation) (error : RecordError) :
    Entry.after ⟨op, .error error⟩ records = records := by
  refine after_of_idle records (fun room id => ?_) (fun room id => ?_) (created?_of_error op error)
  · cases op <;> rfl
  · cases op <;> rfl

/-- A replaced record is one that is edited, if no other record has its id. -/
theorem after_update {records records' : List Record} (unique : (records.map Record.id).Nodup)
    {roomText idText content : String} {timestamp : Int} {room id : RecordId}
    (hroom : normalize roomText = .ok room) (hid : normalize idText = .ok id)
    (h : replaceFirst? (isNamed room id)
      (fun r => { r with content, editedAt := some timestamp }) records = some records') :
    Entry.after ⟨.update roomText idText content timestamp, .ok .done⟩ records = records' := by
  obtain ⟨front, r, back, rfl, -, hr, rfl⟩ := replaceFirst?_eq_some_iff.mp h
  obtain ⟨e, he⟩ : ∃ e : Entry, e = ⟨.update roomText idText content timestamp, .ok .done⟩ :=
    ⟨_, rfl⟩
  have hedit (other : Record) : e.edit other =
      if isNamed room id other then { other with content, editedAt := some timestamp } else other := by
    rw [isNamed_of_ok hroom hid, Entry.edit, he, Entry.edit?]
    split <;> rfl
  have hothers (other : Record) (hother : other ∈ front ++ back) : e.edit other = other := by
    obtain ⟨rfl, rfl⟩ : r.id = id ∧ r.room = room := by simpa [isNamed] using hr
    rw [hedit, isNamed_eq_false (id_ne_of_nodup unique other hother)]
    rfl
  have hkeep {l : List Record} (hl : l ⊆ front ++ back) : l.map e.edit = l :=
    (List.map_congr_left fun other h => hothers other (hl h)).trans (List.map_id l)
  rw [← he]
  have hedited : e.after (front ++ r :: back) = (front ++ r :: back).map e.edit := by
    simp [Entry.after, he, Entry.removes, Entry.created?]
  rw [hedited, List.map_append, List.map_cons, hkeep (List.subset_append_left front back),
    hkeep (List.subset_append_right front back), hedit, if_pos hr]

/-- **What an operation does**, if no two records have one id, is what its entry says, whether it
succeeds or fails. -/
theorem records_step {s : Store} (unique : (s.records.map Record.id).Nodup) (op : Operation) :
    (s.step op).2.records = Entry.after ⟨op, (s.step op).1⟩ s.records := by
  have houtcome := outcome_step s op
  generalize s.step op = result at houtcome ⊢
  symm
  cases houtcome with
  | failed => exact after_of_error _ _ _
  | listed => exact after_of_idle _ (fun _ _ => rfl) (fun _ _ => rfl) rfl
  | picked => exact after_of_idle _ (fun _ _ => rfl) (fun _ _ => rfl) rfl
  | created => exact after_of_keeps _ (fun _ _ => rfl) fun _ _ => rfl
  | updated hroom hid hreplaced => exact after_update unique hroom hid hreplaced
  | deleted hroom hid =>
    rw [after_of_removal _ (fun _ _ => rfl) rfl]
    exact List.filter_congr fun r _ => by rw [isNamed_of_ok hroom hid]; rfl
  | emptied hroom =>
    rw [after_of_removal _ (fun _ _ => rfl) rfl]
    refine List.filter_congr fun r _ => ?_
    rw [Entry.removes, names_of_ok hroom, decide_not]

end Step

/-! ## A longer history -/

theorem isRemoved_concat (since : List Entry) (e : Entry) (r : Record) :
    isRemoved (since ++ [e]) r = (isRemoved since r || e.removes r.room r.id) := by
  simp [isRemoved]

theorem id_asLeftBy (since : List Entry) (r : Record) : (asLeftBy since r).id = r.id :=
  r.id_withEdit _

theorem room_asLeftBy (since : List Entry) (r : Record) : (asLeftBy since r).room = r.room :=
  r.room_withEdit _

theorem asLeftBy_concat (since : List Entry) (e : Entry) (r : Record) :
    asLeftBy (since ++ [e]) r = e.edit (asLeftBy since r) := by
  rw [Entry.edit, id_asLeftBy, room_asLeftBy, asLeftBy, asLeftBy, Record.withEdit_withEdit,
    List.filterMap_append, List.getLast?_append]
  cases h : e.edit? r.room r.id <;> simp [h]

/-- **What a longer history leaves** is what its last entry leaves of what there was before it. -/
theorem kept_concat (history : List Entry) (e : Entry) :
    kept (history ++ [e]) = e.after (kept history) := by
  induction history with
  | nil =>
    have hsame : asLeftBy [] = id := rfl
    simp [kept, Entry.after, isRemoved, hsame]
  | cons first since ih =>
    rw [List.cons_append, kept, kept, ih, Entry.after, Entry.after, List.filter_append,
      List.map_append, List.append_assoc]
    congr 1
    cases first.created? with
    | none => rfl
    | some r =>
      cases hsince : isRemoved since r with
      | true => simp [isRemoved_concat, hsince]
      | false =>
        cases hlast : e.removes r.room r.id <;>
          simp [isRemoved_concat, hsince, hlast, asLeftBy_concat, id_asLeftBy, room_asLeftBy]

/-- The ids of the records that a history leaves are ids of records that were created. -/
theorem ids_kept_sublist (history : List Entry) :
    ((kept history).map Record.id).Sublist ((history.filterMap Entry.created?).map Record.id) := by
  induction history with
  | nil => exact .slnil
  | cons e since ih =>
    rw [kept, List.filterMap_cons]
    cases e.created? with
    | none => exact ih
    | some r =>
      cases h : isRemoved since r with
      | true => simpa [h] using ih.cons r.id
      | false => simpa [h, id_asLeftBy] using ih

/-! ## A run of operations -/

variable (s : Store) (op : Operation) (ops : List Operation)

theorem run_nil : s.run [] = ([], s) := rfl

theorem run_cons :
    s.run (op :: ops) =
      ((s.step op).1 :: ((s.step op).2.run ops).1, ((s.step op).2.run ops).2) := rfl

theorem log_nil : s.log [] = [] := rfl

theorem log_cons : s.log (op :: ops) = ⟨op, (s.step op).1⟩ :: (s.step op).2.log ops := rfl

/-- The last operation is performed on what the others left. -/
theorem run_concat : (s.run (ops ++ [op])).2 = ((s.run ops).2.step op).2 := by
  induction ops generalizing s with
  | nil => rw [List.nil_append, run_cons, run_nil, run_nil]
  | cons first ops ih =>
    rw [List.cons_append, run_cons, run_cons]
    exact ih (s.step first).2

theorem log_concat : s.log (ops ++ [op]) = s.log ops ++ [⟨op, ((s.run ops).2.step op).1⟩] := by
  induction ops generalizing s with
  | nil => rw [List.nil_append, log_cons, log_nil, log_nil, run_nil, List.nil_append]
  | cons first ops ih => rw [List.cons_append, log_cons, log_cons, run_cons, ih, List.cons_append]

/-- A record is created with the given id, content and time, in the room and by the user that are
named, and nothing else creates records. -/
theorem created?_step {r : Record} :
    (⟨op, (s.step op).1⟩ : Entry).created? = some r ↔
      ∃ room user, op = .create r.id room user r.content r.timestamp ∧
        normalize room = .ok r.room ∧ normalize user = .ok r.user ∧ r.editedAt = none := by
  constructor
  · have houtcome := outcome_step s op
    generalize s.step op = result at houtcome ⊢
    intro hcreated
    cases houtcome with
    | failed _ error =>
      rw [created?_of_error] at hcreated
      cases hcreated
    | created hroom huser hedited =>
      cases hcreated
      exact ⟨_, _, rfl, hroom, huser, hedited⟩
    | _ => cases hcreated
  · rintro ⟨room, user, rfl, hroom, huser, hedited⟩
    have hcreate : s.create r.id room user r.content r.timestamp = .ok (r, ⟨s.records ++ [r]⟩) :=
      create_eq_ok_iff.mpr ⟨r.room, r.user, hroom, huser, by rw [← hedited], rfl⟩
    rw [step, hcreate]
    rfl

/-- The ids of the records that were created were made for them, in this order. -/
theorem ids_created_sublist :
    (((s.log ops).filterMap Entry.created?).map Record.id).Sublist
      (ops.filterMap Operation.newId?) := by
  induction ops generalizing s with
  | nil => exact .slnil
  | cons op ops ih =>
    rw [log_cons, List.filterMap_cons]
    cases hcreated : (⟨op, (s.step op).1⟩ : Entry).created? with
    | none =>
      rw [List.filterMap_cons]
      cases op.newId? with
      | none => exact ih _
      | some id => exact (ih _).cons id
    | some r =>
      obtain ⟨room, user, rfl, -⟩ := (created?_step s op).mp hcreated
      exact (ih _).cons_cons r.id

variable {ops}

theorem nodup_ids_kept (distinct : (ops.filterMap Operation.newId?).Nodup) :
    ((kept (s.log ops)).map Record.id).Nodup :=
  ((ids_kept_sublist _).trans (ids_created_sublist s ops)).nodup distinct

/-- Every operation has its entry in the log. -/
theorem operations_log : (s.log ops).map Entry.operation = ops := by
  induction ops generalizing s with
  | nil => rfl
  | cons op ops ih => rw [log_cons, List.map_cons, ih]

/-- The entries of a log have the results of their operations, each on what the operations before it
leave. -/
theorem split_of_log {earlier since : List Entry} {e : Entry} (h : s.log ops = earlier ++ e :: since) :
    ∃ before after, ops = before ++ e.operation :: after ∧ s.log before = earlier ∧
      e.result = ((s.run before).2.step e.operation).1 := by
  induction ops generalizing s earlier with
  | nil =>
    rw [log_nil] at h
    simp at h
  | cons op ops ih =>
    rw [log_cons] at h
    cases earlier with
    | nil =>
      obtain ⟨rfl, -⟩ := List.cons.inj h
      exact ⟨[], ops, rfl, rfl, rfl⟩
    | cons first earlier =>
      obtain ⟨rfl, hrest⟩ := List.cons.inj h
      obtain ⟨before, after, rfl, hlog, hresult⟩ := ih _ hrest
      exact ⟨op :: before, after, rfl, by rw [log_cons, hlog], hresult⟩

/-- **A store holds what its history leaves**, if the ids that were made are distinct. -/
theorem records_run (distinct : (ops.filterMap Operation.newId?).Nodup) :
    (run {} ops).2.records = kept (log {} ops) := by
  induction ops using List.reverseRecOn with
  | nil => rfl
  | append_singleton ops op ih =>
    rw [List.filterMap_append] at distinct
    have hearlier := distinct.of_append_left
    have unique := nodup_ids_kept {} hearlier
    rw [← ih hearlier] at unique
    rw [run_concat, records_step unique, ih hearlier, log_concat, kept_concat]

/-- No two records of a store have one id. -/
theorem nodup_ids_run (distinct : (ops.filterMap Operation.newId?).Nodup) :
    ((run {} ops).2.records.map Record.id).Nodup := by
  rw [records_run distinct]
  exact nodup_ids_kept {} distinct

/-- Which operations of a log succeed can be told from the records that the entries before leave. -/
theorem ok_of_log_iff (distinct : (ops.filterMap Operation.newId?).Nodup) {earlier since : List Entry}
    {e : Entry} (h : log {} ops = earlier ++ e :: since) :
    (∃ reply, e.result = .ok reply) ↔ e.operation.Applies (kept earlier) := by
  obtain ⟨before, after, rfl, rfl, hresult⟩ := split_of_log {} h
  rw [List.filterMap_append] at distinct
  rw [hresult, step_fst_ok_iff, records_run distinct.of_append_left]

/-- **The history determines the records.**  After every run of operations, successful or not, a store
holds the records that were created and not removed since, in order of creation and each once, with the
content and the time of editing of its last update since.  Which operations succeed can be told from what
the history before them leaves: an update or a deletion needs a record of that room and id, and all others
need ids only.  A record is created with the id that was made for it, in the room and by the user that are
named.  To delete all of a room takes out the records of that room, and no other.  No two records have one
id, so what a room and an id name is a single record: an update changes that record in its place, and to
delete it takes out that record and no other. -/
theorem records_after_run (ops : List Operation)
    (distinct : (ops.filterMap Operation.newId?).Nodup) :
    let history := log {} ops
    let s := (run {} ops).2
    s.records = kept history ∧
    history.map Entry.operation = ops ∧
    (∀ earlier e since, history = earlier ++ e :: since →
      ((∃ reply, e.result = .ok reply) ↔ e.operation.Applies (kept earlier))) ∧
    (∀ e ∈ history, ∀ r, e.created? = some r ↔
      ∃ room user, e.operation = .create r.id room user r.content r.timestamp ∧
        normalize room = .ok r.room ∧ normalize user = .ok r.user ∧ r.editedAt = none) ∧
    (s.records.map Record.id).Nodup ∧
    (∀ room roomId, normalize room = .ok roomId →
      s.deleteAll room = .ok ⟨s.records.filter (·.room ≠ roomId)⟩) ∧
    ∀ r ∈ s.records, ∃ front back,
      s.records = front ++ r :: back ∧ (∀ other ∈ front ++ back, other.id ≠ r.id) ∧
      ∀ room id, normalize room = .ok r.room → normalize id = .ok r.id →
        (∀ content timestamp, s.update room id content timestamp =
          .ok ⟨front ++ { r with content, editedAt := some timestamp } :: back⟩) ∧
        s.delete room id = .ok ⟨front ++ back⟩ := by
  intro history s
  have unique : (s.records.map Record.id).Nodup := nodup_ids_run distinct
  refine ⟨records_run distinct, operations_log {}, fun earlier e since => ok_of_log_iff distinct,
    fun e he r => ?_, unique, fun room roomId hroom => ?_, fun r hr => ?_⟩
  · obtain ⟨earlier, since, hsplit⟩ := List.append_of_mem he
    obtain ⟨before, -, -, -, hresult⟩ := split_of_log {} hsplit
    obtain ⟨op, result⟩ := e
    obtain rfl : result = ((run {} before).2.step op).1 := hresult
    exact created?_step (run {} before).2 op
  · exact deleteAll_eq_ok_iff.mpr ⟨roomId, hroom, rfl⟩
  · obtain ⟨front, back, hsplit, alone⟩ := exists_split_of_mem unique hr
    refine ⟨front, back, hsplit, alone, fun room id hroom hid => ?_⟩
    obtain ⟨records⟩ := s
    obtain rfl : records = front ++ r :: back := hsplit
    exact ⟨update_of_split alone hroom hid, delete_of_split alone hroom hid⟩

/-- Two records in one room, spelled in two ways, a third that is refused and one in another room.  The
first is updated twice, the second is deleted, and what is done to it afterwards fails.  All of the other
room is deleted, under another spelling. -/
theorem records_after_run_again :
    let id (count : Nat) : RecordId := .stamped 0 0 count
    let room := "5f1e0c9a2b3c4d5e6f708192"
    let user := "000000000000000000000001"
    let ops : List Operation := [
      .create (id 0) room user "first" 1, .create (id 1) " 5F1E0C9A2B3C4D5E6F708192\n" user "second" 2,
      .create (id 2) "no id" user "third" 3, .create (id 3) "00000000000000000000000a" user "other" 4,
      .update room (toString (id 0)) "edited" 5, .update room (toString (id 0)) "again" 7,
      .delete room (toString (id 1)), .delete room (toString (id 1)),
      .update room (toString (id 1)) "late" 8, .deleteAll " 00000000000000000000000A\n"]
    (ops.filterMap Operation.newId?).Nodup ∧
      (run {} ops).2.records = kept (log {} ops) ∧
      (kept (log {} ops)).map (fun r => (r.id, r.content, r.timestamp, r.editedAt)) =
        [(id 0, "again", 1, some 7)] ∧
      (run {} ops).2.deleteAll room = .ok {} := by
  intro id room user ops
  have hrun : (ops.filterMap Operation.newId?).Nodup ∧
      (kept (log {} ops)).map (fun r => (r.id, r.content, r.timestamp, r.editedAt)) =
        [(id 0, "again", 1, some 7)] ∧
      normalize room = .ok (.stamped 0x5f1e0c9a 0x2b3c4d5e 0x6f708192) ∧
      (run {} ops).2.records.filter (·.room ≠ .stamped 0x5f1e0c9a 0x2b3c4d5e 0x6f708192) = [] := by
    decide +kernel
  obtain ⟨distinct, hkept, hroom, hleft⟩ := hrun
  obtain ⟨hrecords, -, -, -, -, hdeleteAll, -⟩ := records_after_run ops distinct
  refine ⟨distinct, hrecords, hkept, ?_⟩
  rw [hdeleteAll room _ hroom, hleft]

end Store

end TexCompletion
