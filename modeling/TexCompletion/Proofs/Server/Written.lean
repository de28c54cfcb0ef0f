import TexCompletion.Proofs.Json.Form
import TexCompletion.Server.Message

/-!
# Calls as they are written

The parameters of a call are a value, so the order in which the text has their members is lost when a
message is read.  A `WrittenCall` is the same call with the parameters as the text has them.  Its form
differs from that of a call in one field and follows it in all others (`Call.form_follows`), so the
two forms take the same texts (`Call.form_read`).

`exists_written` is what is used of it: for every text that is read as a call there is the written call.
-/

namespace TexCompletion

open Json

/-- A document as a text has it.  A value does not tell the order of the text any more. -/
def Json.Document.decoder : Decoder Document where
  fromText := Reader.document 129
  fromValue _ := .error (.refused "no text")

namespace Server

/-- A call whose parameters are as the text has them. -/
structure WrittenCall where
  method : String
  params : Option Document
  id : Option Id

namespace WrittenCall

/-- The call that is read. -/
def call (w : WrittenCall) : Call :=
  ⟨w.method, w.params.map Document.value, w.id⟩

/-- A written call while its fields are being read. -/
structure Draft where
  version : Option Unit := none
  method : Option String := none
  params : Option Document := none
  id : Option Id := none

/-- What is kept of it when the call is read. -/
def Draft.kept (d : Draft) : Server.Draft :=
  ⟨d.version, d.method, d.params.map Document.value, d.id⟩

/-- The form of a written call. -/
def form : Decoder.Form Draft WrittenCall where
  name := "struct Request"
  fields := [
    .of "jsonrpc" versionDecoder (·.version) fun v d => { d with version := some v },
    .of "method" .string (·.method) fun v d => { d with method := some v },
    .of "params" Document.decoder (·.params) fun v d => { d with params := some v },
    .of "id" Id.decoder (·.id) fun v d => { d with id := some v }]
  empty := {}
  complete d := do
    Decoder.required "jsonrpc" d.version
    return ⟨d.method.getD "", d.params, d.id⟩
  completeInOrder d := do
    d.version
    return ⟨d.method.getD "", d.params, d.id⟩

/-- The call that begins a text, as it is written. -/
def ofText? (text : String) : Option WrittenCall :=
  (form.read.onBeginning text).toOption

end WrittenCall

/-! ## The two forms -/

open Decoder in
/-- A call has the form of a written call, its parameters as a value. -/
theorem Call.form_follows :
    Call.form.Follows WrittenCall.Draft.kept WrittenCall.call WrittenCall.form where
  name := rfl
  fields := by
    refine .cons ?_ (.cons ?_ (.cons ?_ (.cons ?_ .nil)))
    · exact Field.follows_of_same _ (fun _ => rfl) fun _ _ => rfl
    · exact Field.follows_of_same _ (fun _ => rfl) fun _ _ => rfl
    · exact Field.follows_of _ (Reader.anyValue_eq 129) (fun _ => rfl) fun _ _ => rfl
    · exact Field.follows_of_same _ (fun _ => rfl) fun _ _ => rfl
  isClosed := rfl
  empty := rfl
  complete d := by
    cases h : d.version <;> simp only [Call.form, WrittenCall.form, WrittenCall.Draft.kept, h] <;> rfl
  completeInOrder d := by
    cases h : d.version <;> simp only [Call.form, WrittenCall.form, WrittenCall.Draft.kept, h] <;> rfl

/-- A call is read as the written call is. -/
theorem Call.form_read : Call.form.read = WrittenCall.call <$> WrittenCall.form.read :=
  Call.form_follows.read_eq

/-! ## Messages -/

variable {text : String}

/-- A message that is a call is read by the form of calls. -/
theorem run_of_message {c : Call} {cursor : Cursor}
    (h : Message.decoder.fromText (Cursor.start text) = .ok (.call c) cursor) :
    Call.form.read (Cursor.start text) = .ok c cursor := by
  simp only [Message.decoder, Decoder.orElse] at h
  split at h
  next =>
    obtain ⟨c', cursor', hread, hpure⟩ := Reader.bind_eq_ok_iff.mp h
    cases hpure
    exact hread
  next =>
    obtain ⟨_, _, -, hpure⟩ := Reader.bind_eq_ok_iff.mp h
    cases hpure

/-- **A call that is read is a written call**, its parameters as a value. -/
theorem exists_written {c : Call} (h : Message.ofText text = .ok (.call c)) :
    ∃ w, WrittenCall.ofText? text = some w ∧ w.call = c := by
  rw [Message.ofText] at h
  split at h
  next => cases h
  next =>
    split at h
    next message hmessage =>
      cases h
      obtain ⟨cursor, -, hrun, -⟩ := Reader.onText_eq_ok_iff.mp hmessage
      have hread := run_of_message hrun
      rw [Call.form_read, Reader.map_run] at hread
      rw [WrittenCall.ofText?, Reader.onBeginning]
      cases hwritten : WrittenCall.form.read (Cursor.start text) with
      | ok w cursor' =>
        rw [hwritten] at hread
        cases hread
        exact ⟨w, rfl, rfl⟩
      | error fault cursor' =>
        rw [hwritten] at hread
        cases hread
    next => cases h
    next => cases h

end Server

end TexCompletion
