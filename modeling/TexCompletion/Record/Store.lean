import TexCompletion.Record.Basic

/-!
# The record store

Records are kept in order of creation.  Rooms, users and records are named by texts; each operation
normalises the names it is given first, in the order of its arguments, and stops at the first one
that is no id.  An operation that fails leaves the store as it was.

Making ids is left to the caller, since an id depends on the clock: `create` takes the id of the new
record.  `Store.step` performs one operation, `Store.run` a list of them.
-/

namespace TexCompletion

/-- The records of all rooms. -/
structure Store where
  /-- The records, in order of creation. -/
  records : List Record := []
deriving DecidableEq

namespace Store

open RecordId (normalize)

/-- Adds a record to a room and returns it. -/
def create (s : Store) (id : RecordId) (room user content : String) (timestamp : Int) :
    Except RecordError (Record × Store) := do
  let record := ⟨id, ← normalize room, ← normalize user, content, timestamp, none⟩
  return (record, ⟨s.records ++ [record]⟩)

/-- The records of a room that are older than `before`, if that is given, the newest first and those
of one time in order of creation. -/
def listing (s : Store) (room : RecordId) (before : Option Int) : List Record :=
  (s.records.filter fun r => r.room = room ∧ before.all (r.timestamp < ·)).mergeSort
    fun a b => b.timestamp ≤ a.timestamp

/-- The first `limit` records of the listing of a room. -/
def list (s : Store) (room : String) (limit : Nat) (before : Option Int) :
    Except RecordError (List Record) := do
  return (s.listing (← normalize room) before).take limit

/-- The records of several rooms, in order of creation. -/
def listInRooms (s : Store) (rooms : List String) : Except RecordError (List Record) := do
  let rooms ← rooms.mapM normalize
  return s.records.filter (·.room ∈ rooms)

/-- The record has the given id and stands in the given room. -/
def isNamed (room id : RecordId) (r : Record) : Bool :=
  r.id = id ∧ r.room = room

/-- Applies `f` to the first element that satisfies `p`; nothing if there is none. -/
def replaceFirst? {α : Type} (p : α → Bool) (f : α → α) : List α → Option (List α)
  | [] => none
  | a :: as => if p a then some (f a :: as) else (replaceFirst? p f as).map (a :: ·)

/-- Replaces the content of a record. -/
def update (s : Store) (room id content : String) (timestamp : Int) :
    Except RecordError Store := do
  let room ← normalize room
  let id ← normalize id
  let edit (r : Record) : Record := { r with content, editedAt := some timestamp }
  match replaceFirst? (isNamed room id) edit s.records with
  | some records => return ⟨records⟩
  | none => throw (.notFound room id)

/-- Removes a record. -/
def delete (s : Store) (room id : String) : Except RecordError Store := do
  let room ← normalize room
  let id ← normalize id
  if s.records.any (isNamed room id) then return ⟨s.records.filter (!isNamed room id ·)⟩
  else throw (.notFound room id)

/-- Removes all records of a room. -/
def deleteAll (s : Store) (room : String) : Except RecordError Store := do
  let room ← normalize room
  return ⟨s.records.filter (·.room ≠ room)⟩

/-! ## Runs of operations -/

/-- An operation on the store. -/
inductive Operation where
  | create (id : RecordId) (room user content : String) (timestamp : Int)
  | list (room : String) (limit : Nat) (before : Option Int)
  | listInRooms (rooms : List String)
  | update (room id content : String) (timestamp : Int)
  | delete (room id : String)
  | deleteAll (room : String)
deriving DecidableEq

/-- What an operation that succeeded returns. -/
inductive Reply where
  | record (r : Record)
  | records (rs : List Record)
  | done
deriving DecidableEq

/-- The result of an operation that cannot change the store. -/
def reading (s : Store) (rs : Except RecordError (List Record)) :
    Except RecordError Reply × Store :=
  (.records <$> rs, s)

/-- The result of an operation that returns nothing but the changed store. -/
def changing (s : Store) : Except RecordError Store → Except RecordError Reply × Store
  | .ok s' => (.ok .done, s')
  | .error e => (.error e, s)

/-- Performs an operation. -/
def step (s : Store) : Operation → Except RecordError Reply × Store
  | .create id room user content timestamp =>
    match s.create id room user content timestamp with
    | .ok (r, s') => (.ok (.record r), s')
    | .error e => (.error e, s)
  | .list room limit before => s.reading (s.list room limit before)
  | .listInRooms rooms => s.reading (s.listInRooms rooms)
  | .update room id content timestamp => s.changing (s.update room id content timestamp)
  | .delete room id => s.changing (s.delete room id)
  | .deleteAll room => s.changing (s.deleteAll room)

/-- Performs operations one after another and returns their results with the store they leave. -/
def run (s : Store) : List Operation → List (Except RecordError Reply) × Store
  | [] => ([], s)
  | op :: ops =>
    let (reply, s') := s.step op
    let (replies, last) := run s' ops
    (reply :: replies, last)

end Store

end TexCompletion
