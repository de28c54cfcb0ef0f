import TexCompletion.Json.Decoder
import TexCompletion.Position
import TexCompletion.Url.Basic

/-!
# Parts of parameters

The forms in which a client names documents, positions and ranges.
-/

namespace TexCompletion.Server.Parts

open Json

/-- The form of a record of one field. -/
def single {α : Type} (name field : String) (d : Decoder α) : Decoder.Form (Option α) α where
  name := name
  fields := [.of field d id fun v _ => some v]
  empty := none
  complete v := Decoder.required field v
  completeInOrder v := v

/-- The form of a record of two fields. -/
def pair {α β : Type} (name first second : String) (d : Decoder α) (e : Decoder β) :
    Decoder.Form (Option α × Option β) (α × β) where
  name := name
  fields := [
    .of first d (·.1) fun v draft => (some v, draft.2),
    .of second e (·.2) fun v draft => (draft.1, some v)]
  empty := (none, none)
  complete draft :=
    return (← Decoder.required first draft.1, ← Decoder.required second draft.2)
  completeInOrder draft := return (← draft.1, ← draft.2)

/-- A position in a document. -/
def position : Decoder Position :=
  let form := pair "struct Position" "line" "character" .nat32 .nat32
  .checked (.record form) fun (line, character) => .ok ⟨line, character⟩

/-- A range of a document. -/
def range : Decoder (Position × Position) :=
  .record (pair "struct Range" "start" "end" position position)

/-- The URL of a document, in normal form. -/
def identifier : Decoder String :=
  .record (single "struct TextDocumentIdentifier" "uri" Url.decoder)

/-- The form of a document and a position in it. -/
def place : Decoder.Form (Option String × Option Position) (String × Position) :=
  pair "struct TextDocumentPositionParams" "textDocument" "position" identifier position

end TexCompletion.Server.Parts
