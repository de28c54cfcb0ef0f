import TexCompletion.Proofs.Record.History
import TexCompletion.Proofs.Record.Listing

/-!
# Rooms are kept apart

All rooms share one list of records, and an id may be used in a room where it names nothing.  Still a
room is like a store of its own: what other rooms are told does not show in it.

`only` is the part of a store that belongs to a room.  An operation that is addressed to the room does
to the store what it does to that part, with the same result (`step_only`), and all other operations
leave the part as it was (`only_step_of_not_isAt`).  Along a run this says that the room sees the
operations that are addressed to it, and nothing else (`log_filter_isAt`).  The main statement,
`log_without_elsewhere`, takes out of a run what is addressed to other rooms.
-/

namespace TexCompletion.Store

open RecordId (normalize)

/-- What a store holds of a room. -/
def only (room : RecordId) (s : Store) : Store :=
  ⟨s.records.filter (·.room = room)⟩

namespace Operation

/-- The texts that name the rooms of an operation. -/
def roomTexts : Operation → List String
  | .create _ room .. => [room]
  | .list room .. => [room]
  | .listInRooms rooms => rooms
  | .update room .. => [room]
  | .delete room _ => [room]
  | .deleteAll room => [room]

/-- The operation is there to change the store. -/
def isWriting : Operation → Bool
  | .list .. => false
  | .listInRooms _ => false
  | _ => true

/-- The operation is addressed to the room alone. -/
def isAt (room : RecordId) (op : Operation) : Bool :=
  op.roomTexts.all (names · room)

/-- The operation is there to change another room. -/
def isElsewhere (room : RecordId) (op : Operation) : Bool :=
  op.isWriting && op.roomTexts.any fun text => (normalize text).toOption.any (· ≠ room)

end Operation

variable {room : RecordId} {s : Store} {op : Operation}

/-- An operation with one room is addressed to the room that it names. -/
theorem isAt_eq_names {text : String} (h : op.roomTexts = [text]) :
    op.isAt room = names text room := by
  rw [Operation.isAt, h, List.all_cons, List.all_nil, Bool.and_true]

/-! ## Operations on other rooms -/

/-- If an operation is not addressed to the room, the room that it names is another. -/
theorem ne_of_not_isAt {text : String} {id : RecordId} (h : op.isAt room = false)
    (hop : op.roomTexts = [text]) (hid : normalize text = .ok id) : id ≠ room := by
  rintro rfl
  rw [isAt_eq_names hop, names_iff.mpr hid] at h
  cases h

/-- Records of other rooms do not belong to the part of a room. -/
theorem filter_room_of_filter {records : List Record} {p : Record → Bool}
    (h : ∀ r, r.room = room → p r = true) :
    (records.filter p).filter (·.room = room) = records.filter (·.room = room) := by
  rw [List.filter_filter]
  refine List.filter_congr fun r _ => ?_
  cases hp : p r with
  | true => rw [Bool.and_true]
  | false =>
    have hne : r.room ≠ room := fun heq => by simp [h r heq] at hp
    simp [hne]

/-- An operation that is not addressed to a room leaves what belongs to the room. -/
theorem only_step_of_not_isAt (h : op.isAt room = false) :
    (s.step op).2.only room = s.only room := by
  have houtcome := outcome_step s op
  generalize s.step op = result at houtcome ⊢
  cases houtcome with
  | failed => rfl
  | listed => rfl
  | picked => rfl
  | created hroom => simp [only, ne_of_not_isAt h rfl hroom]
  | updated hroom hid hreplaced =>
    obtain ⟨front, r, back, hs, -, hr, rfl⟩ := replaceFirst?_eq_some_iff.mp hreplaced
    have hne : r.room ≠ room := by
      rw [isNamed, decide_eq_true_iff] at hr
      exact hr.2 ▸ ne_of_not_isAt h rfl hroom
    simp [only, hs, hne]
  | deleted hroom =>
    refine congrArg Store.mk (filter_room_of_filter fun r hr => ?_)
    simp [isNamed, hr, (ne_of_not_isAt h rfl hroom).symm]
  | emptied hroom =>
    refine congrArg Store.mk (filter_room_of_filter fun r hr => ?_)
    simp [hr, (ne_of_not_isAt h rfl hroom).symm]

/-! ## Operations on the room -/

/-- The room that an operation is addressed to is the one that its text is read as. -/
theorem normalize_of_isAt {text : String} (h : op.isAt room = true)
    (hop : op.roomTexts = [text]) : normalize text = .ok room :=
  names_iff.mp ((isAt_eq_names hop).symm.trans h)

/-- Records that a predicate leaves out are not replaced, and those that it keeps it keeps when they are
replaced. -/
theorem replaceFirst?_filter {α : Type} {p q : α → Bool} {f : α → α} (hp : ∀ a, p a = true → q a = true)
    (hf : ∀ a, q (f a) = q a) (as : List α) :
    replaceFirst? p f (as.filter q) = (replaceFirst? p f as).map (·.filter q) := by
  induction as with
  | nil => rfl
  | cons a as ih =>
    cases hq : q a with
    | true =>
      rw [List.filter_cons_of_pos hq, replaceFirst?, replaceFirst?, ih]
      split
      · rw [Option.map_some, List.filter_cons_of_pos ((hf a).trans hq)]
      · cases replaceFirst? p f as <;> simp [hq]
    | false =>
      have hpa : p a = false := Bool.eq_false_iff.mpr fun h => by simp [hp a h] at hq
      rw [List.filter_cons_of_neg (by simp [hq]), replaceFirst?, ih]
      cases replaceFirst? p f as <;> simp [hpa, hq]

/-- Texts that all name one room are read as that room. -/
theorem mapM_normalize_of_names {texts : List String} (h : texts.all (names · room) = true) :
    texts.mapM normalize = .ok (texts.map fun _ => room) := by
  induction texts with
  | nil => rfl
  | cons text texts ih =>
    rw [List.all_cons, Bool.and_eq_true, names_iff] at h
    rw [List.mapM_cons, h.1, ih h.2]
    rfl

/-- What is picked from the records of the room is the same if it is picked from all records. -/
theorem filter_of_filter_room {records : List Record} {p : Record → Bool}
    (h : ∀ r, p r = true → r.room = room) :
    (records.filter (·.room = room)).filter p = records.filter p := by
  rw [List.filter_filter]
  refine List.filter_congr fun r _ => ?_
  cases hp : p r with
  | true => simp [h r hp]
  | false => rfl

theorem room_of_isNamed {id : RecordId} {r : Record} (h : isNamed room id r = true) :
    r.room = room :=
  (of_decide_eq_true h).2

/-- A room is listed from what belongs to it. -/
theorem listing_only (room : RecordId) (s : Store) (before : Option Int) :
    (s.only room).listing room before = s.listing room before :=
  congrArg (List.mergeSort · _) (filter_of_filter_room fun _ h => (of_decide_eq_true h).1)

/-- A record of the room is found among what belongs to the room. -/
theorem any_isNamed_only (room id : RecordId) (s : Store) :
    (s.only room).records.any (isNamed room id) = s.records.any (isNamed room id) := by
  rw [only, List.any_filter]
  refine congrArg s.records.any (funext fun r => ?_)
  cases hr : isNamed room id r with
  | true => simp [room_of_isNamed hr]
  | false => exact Bool.and_false _

/-- It is replaced there as it is among all records. -/
theorem replaceFirst?_only (room id : RecordId) (s : Store) {f : Record → Record}
    (hf : ∀ r, (f r).room = r.room) :
    replaceFirst? (isNamed room id) f (s.only room).records =
      (replaceFirst? (isNamed room id) f s.records).map (·.filter (·.room = room)) := by
  refine replaceFirst?_filter (fun r hr => decide_eq_true (room_of_isNamed hr)) (fun r => ?_) s.records
  rw [hf]

/-- An operation on a room does to the store what it does to the part that belongs to the room, and has
the same result. -/
theorem step_only (h : op.isAt room = true) :
    (s.only room).step op = ((s.step op).1, (s.step op).2.only room) := by
  cases op with
  | create id roomText user content timestamp =>
    have hroom : normalize roomText = .ok room := normalize_of_isAt h rfl
    rw [step, step, create, create, hroom]
    cases normalize user with
    | error => rfl
    | ok userId => simp [only, bind, Except.bind, pure, Except.pure]
  | list roomText limit before =>
    have hroom : normalize roomText = .ok room := normalize_of_isAt h rfl
    rw [step, step, list_of_ok hroom, list_of_ok hroom, listing_only]
    rfl
  | listInRooms rooms =>
    have hrooms : rooms.mapM normalize = .ok (rooms.map fun _ => room) := mapM_normalize_of_names h
    have hpicked : (s.only room).records.filter (·.room ∈ rooms.map fun _ => room) =
        s.records.filter (·.room ∈ rooms.map fun _ => room) :=
      filter_of_filter_room fun r hr => by
        obtain ⟨-, -, heq⟩ := List.mem_map.mp (of_decide_eq_true hr)
        exact heq.symm
    rw [step, step, listInRooms, listInRooms, hrooms]
    exact congrArg (fun rs => (Except.ok (Reply.records rs), s.only room)) hpicked
  | update roomText id content timestamp =>
    have hroom : normalize roomText = .ok room := normalize_of_isAt h rfl
    rw [step, step, update, update, hroom]
    cases normalize id with
    | error => rfl
    | ok recordId =>
      have hreplace := replaceFirst?_only room recordId s
        (f := fun r => { r with content, editedAt := some timestamp }) fun _ => rfl
      simp only [bind, Except.bind, hreplace]
      cases replaceFirst? (isNamed room recordId) _ s.records <;> rfl
  | delete roomText id =>
    have hroom : normalize roomText = .ok room := normalize_of_isAt h rfl
    rw [step, step, delete, delete, hroom]
    cases normalize id with
    | error => rfl
    | ok recordId =>
      simp only [bind, Except.bind, any_isNamed_only]
      cases s.records.any (isNamed room recordId) with
      | true =>
        exact congrArg (fun rs => (Except.ok Reply.done, Store.mk rs))
          (List.filter_comm _ _ s.records)
      | false => rfl
  | deleteAll roomText =>
    have hroom : normalize roomText = .ok room := normalize_of_isAt h rfl
    rw [step, step, deleteAll, deleteAll, hroom]
    exact congrArg (fun rs => (Except.ok Reply.done, Store.mk rs)) (List.filter_comm _ _ s.records)

/-! ## A run -/

/-- A room sees of a run the operations that are addressed to it, as if there were no other rooms. -/
theorem log_filter_isAt (room : RecordId) (s : Store) (ops : List Operation) :
    (s.log ops).filter (·.operation.isAt room) = (s.only room).log (ops.filter (·.isAt room)) ∧
      (s.run ops).2.only room = ((s.only room).run (ops.filter (·.isAt room))).2 := by
  induction ops generalizing s with
  | nil => exact ⟨rfl, rfl⟩
  | cons op ops ih =>
    obtain ⟨hlog, hrun⟩ := ih (s.step op).2
    cases h : op.isAt room with
    | true =>
      simp only [List.filter_cons, h, if_true, log_cons, run_cons, step_only h]
      exact ⟨congrArg _ hlog, hrun⟩
    | false =>
      simp only [List.filter_cons, h, Bool.false_eq_true, if_false, log_cons, run_cons]
      rw [← only_step_of_not_isAt h]
      exact ⟨hlog, hrun⟩

/-- What is there to change another room is not addressed to this one. -/
theorem isElsewhere_eq_false (h : op.isAt room = true) : op.isElsewhere room = false := by
  have hnone : ∀ text ∈ op.roomTexts, (normalize text).toOption.any (· ≠ room) = false := by
    intro text htext
    rw [names_iff.mp (List.all_eq_true.mp h text htext)]
    simp [Except.toOption]
  rw [Operation.isElsewhere, Bool.and_eq_false_iff]
  exact .inr (List.any_eq_false.mpr fun text htext => Bool.eq_false_iff.mp (hnone text htext))

/-- **Rooms are kept apart.**  Take out of any run, from any store, all operations that create, update
or delete records in other rooms than the given one, or delete all of another room, also those that
name ids of its records.  All operations that are addressed to the room have the results that they had,
the listing of several rooms included if all of them are this room, and the room has the same records
at the end. -/
theorem log_without_elsewhere (room : RecordId) (s : Store) (ops : List Operation) :
    let rest := ops.filter (!·.isElsewhere room)
    (s.log rest).filter (·.operation.isAt room) = (s.log ops).filter (·.operation.isAt room) ∧
      (s.run rest).2.only room = (s.run ops).2.only room := by
  intro rest
  have hsame : rest.filter (·.isAt room) = ops.filter (·.isAt room) := by
    rw [List.filter_filter]
    refine List.filter_congr fun op _ => ?_
    cases h : op.isAt room with
    | true => simp [isElsewhere_eq_false h]
    | false => rfl
  obtain ⟨hlog, hrun⟩ := log_filter_isAt room s ops
  obtain ⟨hlog', hrun'⟩ := log_filter_isAt room s rest
  rw [hlog', hrun', hsame]
  exact ⟨hlog.symm, hrun.symm⟩

end TexCompletion.Store
