import TexCompletion.Record.Id

/-!
# Records

A record is a piece of content that a user left in a room.  Times are counted in milliseconds.
-/

namespace TexCompletion

/-- A piece of content in a room. -/
structure Record where
  id : RecordId
  room : RecordId
  user : RecordId
  content : String
  /-- When the record was created. -/
  timestamp : Int
  /-- When the content was last replaced, if ever. -/
  editedAt : Option Int
deriving DecidableEq

namespace Record

open Json

/-- A record while its fields are being read. -/
structure Draft where
  id : Option RecordId := none
  room : Option RecordId := none
  user : Option RecordId := none
  content : Option String := none
  timestamp : Option Int := none
  editedAt : Option (Option Int) := none

/-- The form of a record.  Only the time of editing may be missing. -/
def form : Decoder.Form Draft Record where
  name := "struct Record"
  fields := [
    .of "id" RecordId.decoder (·.id) fun v d => { d with id := some v },
    .of "room_id" RecordId.decoder (·.room) fun v d => { d with room := some v },
    .of "user_id" RecordId.decoder (·.user) fun v d => { d with user := some v },
    .of "content" .string (·.content) fun v d => { d with content := some v },
    .of "timestamp" .int64 (·.timestamp) fun v d => { d with timestamp := some v },
    .of "edited_at" (.optional .int64) (·.editedAt) fun v d => { d with editedAt := some v }]
  empty := {}
  complete d := return {
    id := ← Decoder.required "id" d.id
    room := ← Decoder.required "room_id" d.room
    user := ← Decoder.required "user_id" d.user
    content := ← Decoder.required "content" d.content
    timestamp := ← Decoder.required "timestamp" d.timestamp
    editedAt := d.editedAt.join }
  completeInOrder d :=
    return ⟨← d.id, ← d.room, ← d.user, ← d.content, ← d.timestamp, ← d.editedAt⟩

/-- Reads a record from JSON text. -/
def ofJson (text : String) : Except Fault Record :=
  (Decoder.record form).onText text

/-- A record in JSON. -/
def toJson (r : Record) : Value :=
  .ofMembers [
    ("id", .string (toString r.id)),
    ("room_id", .string (toString r.room)),
    ("user_id", .string (toString r.user)),
    ("content", .string r.content),
    ("timestamp", .ofInt r.timestamp),
    ("edited_at", .ofOption .ofInt r.editedAt)]

end Record

end TexCompletion
