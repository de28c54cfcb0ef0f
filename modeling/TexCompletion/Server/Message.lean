import TexCompletion.Json.Decoder

/-!
# JSON-RPC messages

A client sends calls and the replies to calls of the server's own, which are not awaited here.  A
call with an id is a request and gets one reply, a call without is a notification and gets none.
What is no JSON and what is no message are told apart by `Message.ofText`, since the two are
answered with different errors.
-/

namespace TexCompletion.Server

open Json

/-- The name a client gives to a request. -/
inductive Id where
  | number (n : Int)
  | text (s : String)
  | null
deriving DecidableEq, Repr

/-- An id in JSON. -/
def Id.toJson : Id → Value
  | number n => .ofInt n
  | text s => .string s
  | null => .null

/-- A call of a method.  Parameters that are `null` are there, in contrast to missing ones. -/
structure Call where
  method : String
  params : Option Value
  id : Option Id

/-- What a client sends. -/
inductive Message where
  | call (c : Call)
  /-- The reply to a call of the server. -/
  | reply

/-- Why a request fails. -/
structure Failure where
  code : Int
  message : String
  data : Option Value := none

/-- What the server sends. -/
inductive Outgoing where
  | result (id : Id) (value : Value)
  | failure (id : Id) (failure : Failure)
  | notification (method : String) (params : Value)

/-! ## Failures -/

namespace Failure

/-- The text is no JSON. -/
def notJson : Failure :=
  ⟨-32700, "Parse error", none⟩

/-- The value is no message, or its method cannot be called at this stage. -/
def invalidRequest : Failure :=
  ⟨-32600, "Invalid request", none⟩

/-- There is no such method, or it does nothing. -/
def methodNotFound (data : Option Value) : Failure :=
  ⟨-32601, "Method not found", data⟩

/-- The parameters do not fit the method. -/
def invalidParams (message : String) : Failure :=
  ⟨-32602, message, none⟩

/-- The session has not begun. -/
def notInitialized : Failure :=
  ⟨-32002, "Server not initialized", none⟩

/-- A failure in JSON. -/
def toJson (f : Failure) : Value :=
  .ofMembers ([("code", .ofInt f.code), ("message", .string f.message)] ++
    (f.data.map fun data => ("data", data)).toList)

end Failure

/-- The version that every message names. -/
def version : String × Value :=
  ("jsonrpc", .string "2.0")

/-- A message to the client in JSON. -/
def Outgoing.toJson : Outgoing → Value
  | result id value => .ofMembers [version, ("id", id.toJson), ("result", value)]
  | failure id f => .ofMembers [version, ("id", id.toJson), ("error", f.toJson)]
  | notification method params =>
    .ofMembers [version, ("method", .string method), ("params", params)]

/-! ## Reading messages -/

/-- An id: a string, an integer of 64 bits, or `null`. -/
def Id.ofValue? : Value → Option Id
  | .number (.int n) =>
    match Decoder.int64.fromValue (.ofInt n) with
    | .ok k => some (.number k)
    | .error _ => none
  | .string s => some (.text s)
  | .null => some .null
  | _ => none

/-- An id in a message. -/
def Id.decoder : Decoder Id :=
  .checked .any fun v =>
    match Id.ofValue? v with
    | some id => .ok id
    | none => .error (.refused "no id")

/-- The version of a message. -/
def versionDecoder : Decoder Unit :=
  .checked .string fun s => if s = "2.0" then .ok () else .error (.refused "other version")

/-- A call while its fields are being read. -/
structure Draft where
  version : Option Unit := none
  method : Option String := none
  params : Option Value := none
  id : Option Id := none

/-- The form of a call. -/
def Call.form : Decoder.Form Draft Call where
  name := "struct Request"
  fields := [
    .of "jsonrpc" versionDecoder (·.version) fun v d => { d with version := some v },
    .of "method" .string (·.method) fun v d => { d with method := some v },
    .of "params" .any (·.params) fun v d => { d with params := some v },
    .of "id" Id.decoder (·.id) fun v d => { d with id := some v }]
  empty := {}
  complete d := do
    Decoder.required "jsonrpc" d.version
    return ⟨d.method.getD "", d.params, d.id⟩
  completeInOrder d := do
    d.version
    return ⟨d.method.getD "", d.params, d.id⟩

/-- The form of the error that a reply tells: a code, a message and perhaps data. -/
def Failure.form : Decoder.Form (Option Int × Option String × Option (Option Value)) Unit where
  name := "struct Error"
  fields := [
    .of "code" .int64 (·.1) fun v d => (some v, d.2),
    .of "message" .string (·.2.1) fun v d => (d.1, some v, d.2.2),
    .of "data" (.optional .any) (·.2.2) fun v d => (d.1, d.2.1, some v)]
  isClosed := true
  empty := (none, none, none)
  complete d := do
    let _ ← Decoder.required "code" d.1
    let _ ← Decoder.required "message" d.2.1
  completeInOrder d := do
    let _ ← d.1
    let _ ← d.2.1
    let _ ← d.2.2

/-- A reply while its fields are being read: for every outcome, whether it has its form. -/
structure ReplyDraft where
  version : Option Unit := none
  id : Option Id := none
  results : List Unit := []
  errors : List Bool := []

/-- The form of a reply: it has one result, or one error of the right form.  It is always written as
an object. -/
def replyForm : Decoder.Form ReplyDraft Unit where
  name := "struct Response"
  fields := [
    .of "jsonrpc" versionDecoder (·.version) fun v d => { d with version := some v },
    .of "id" Id.decoder (·.id) fun v d => { d with id := some v },
    .of "result" .any (fun _ => none) fun _ d => { d with results := () :: d.results },
    .of "error" (.fits (.record Failure.form)) (fun _ => none) fun v d =>
      { d with errors := v :: d.errors }]
  empty := {}
  complete d := do
    Decoder.required "jsonrpc" d.version
    let _ ← Decoder.required "id" d.id
    if d.results = [()] ∨ d.errors = [true] then return
    else throw (.refused "no outcome")
  completeInOrder _ := none

/-- A message: a reply, or else a call. -/
def Message.decoder : Decoder Message :=
  .orElse (.checked (.record replyForm) fun _ => .ok .reply)
    (.checked (.record Call.form) fun c => .ok (.call c))

/-- Reads a message, or tells how the request for it fails.  What follows a value is looked at only
if the value is a message. -/
def Message.ofText (text : String) : Except Failure Message :=
  match (Reader.anyValue 129).onBeginning text with
  | .error _ => .error .notJson
  | .ok _ =>
    match decoder.onText text, decoder.fromText.onBeginning text with
    | .ok message, _ => .ok message
    | _, .ok _ => .error .notJson
    | _, _ => .error .invalidRequest

end TexCompletion.Server
