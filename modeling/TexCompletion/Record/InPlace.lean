import TexCompletion.Record.Store

/-!
# Operations on the records in place

`Store.step` puts the store of before in place of what an operation that fails has left.  Here the
operations work on one list of records, part by part, and nothing is put back: what has been done to the
list when an operation fails stays done.  `delete` finds out only after its pass over the records
whether there was anything to remove.
-/

namespace TexCompletion.Store

open RecordId (normalize)

/-- Work on a list of records that may fail on the way and leaves the list as it is then. -/
abbrev InPlace (α : Type) := ExceptT RecordError (StateM (List Record)) α

/-- Performs an operation in place. -/
def Operation.inPlace : Operation → InPlace Reply
  | .create id room user content timestamp => do
    let record := ⟨id, ← normalize room, ← normalize user, content, timestamp, none⟩
    modify (· ++ [record])
    return .record record
  | .list room limit before => do
    return .records (← Store.list ⟨← get⟩ room limit before)
  | .listInRooms rooms => do
    return .records (← Store.listInRooms ⟨← get⟩ rooms)
  | .update room id content timestamp => do
    let room ← normalize room
    let id ← normalize id
    match (← get).findIdx? (isNamed room id) with
    | none => throw (.notFound room id)
    | some i =>
      modify (·.modify i fun r => { r with content, editedAt := some timestamp })
      return .done
  | .delete room id => do
    let room ← normalize room
    let id ← normalize id
    let count := (← get).length
    modify (·.filter (!isNamed room id ·))
    if (← get).length = count then throw (.notFound room id) else return .done
  | .deleteAll room => do
    let room ← normalize room
    modify (·.filter (·.room ≠ room))
    return .done

end TexCompletion.Store
