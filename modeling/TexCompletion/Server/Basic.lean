import TexCompletion.Json.Printer
import TexCompletion.Metadata
import TexCompletion.Server.Message
import TexCompletion.Server.Params
import TexCompletion.Server.Requests
import TexCompletion.Session

/-!
# The language server

The server wraps a session in the language server protocol.  `Server.receive` takes one message of
the client and gives the messages to send back.

A session has stages.  Before it is initialised, requests are refused and notifications are dropped;
after shutdown, requests are refused as invalid; after exit nothing is answered any more.  A request
gets exactly one reply and a notification none: a method that is a notification is refused as
invalid when it is called with an id, and one that is a request says nothing when it is called
without.
-/

namespace TexCompletion

open Json

namespace Server

/-- How far a session has come. -/
inductive Stage where
  | uninitialized
  | running
  | shutDown
  | exited
deriving DecidableEq, Repr

end Server

/-- A server and its session. -/
structure Server where
  stage : Server.Stage := .uninitialized
  session : Session

namespace Server

/-! ## What is sent -/

/-- The answer to the request that begins a session: what the server can do. -/
def capabilities : Value :=
  .ofMembers [
    ("capabilities", .ofMembers [
      ("textDocumentSync", .ofInt 1),
      ("completionProvider", .ofMembers [
        ("resolveProvider", .bool false),
        ("triggerCharacters", .array [.string "\\", .string "\x7b", .string ","])])]),
    ("serverInfo", .ofMembers [
      ("name", .string "latex-language-server"), ("version", .string "0.1.0")])]

/-- The answer to a completion request. -/
def completionList : Option (List Completion.Item) → Value :=
  .ofOption fun items =>
    .ofMembers [
      ("isIncomplete", .bool false),
      ("items", .array (items.map Completion.Item.toJson))]

end Server

/-- The number of a severity in the language server protocol. -/
def Severity.number : Severity → Int
  | warning => 2
  | info => 3

/-- A notice in JSON. -/
def Notice.toJson (n : Notice) : Value :=
  .ofMembers [("type", .ofInt n.severity.number), ("message", .string n.text)]

namespace Server

/-- The message that shows a notice. -/
def log (n : Notice) : Outgoing :=
  .notification "window/logMessage" n.toJson

/-! ## Methods -/

/-- Notifications of the protocol that change nothing. -/
def silentMethods : List String :=
  ["textDocument/willSave", "textDocument/didSave", "workspace/didChangeWorkspaceFolders",
   "workspace/didCreateFiles", "workspace/didRenameFiles", "workspace/didDeleteFiles",
   "workspace/didChangeWatchedFiles"]

/-- What a method does that can be called while the server is running. -/
inductive Method where
  /-- A notification that the session takes in. -/
  | event (read : Value → Except Cause Session.Event)
  /-- A notification that changes nothing. -/
  | silent
  /-- The request for completion. -/
  | completion
  /-- A request that is not performed.  Its parameters are looked at all the same. -/
  | unsupported (shape : Shape)

/-- The method of a name. -/
def Method.ofName? (name : String) : Option Method :=
  match name with
  | "initialized" => some <| .event fun v => do
    Params.ready.ofValue v
    return .ready
  | "workspace/didChangeConfiguration" => some <| .event fun v =>
    return .configured (← Params.configured.ofValue v)
  | "textDocument/didOpen" => some <| .event fun v => do
    let (document, text) ← Params.opened.ofValue v
    return .opened document text
  | "textDocument/didChange" => some <| .event fun v => do
    let (document, texts) ← Params.changed.ofValue v
    return .changed document texts
  | "textDocument/didClose" => some <| .event fun v =>
    return .closed (← Params.closed.ofValue v)
  | "latex/packageMetadata" => some <| .event fun v => do
    let metadata ← Metadata.form.ofValue v
    return .contributed metadata.document metadata.packages
  | "textDocument/completion" => some .completion
  | _ =>
    if name ∈ silentMethods then some .silent
    else (Requests.shape? name).map .unsupported

/-- The method is a notification, so it has no answer to give. -/
def Method.isNotification : Method → Bool
  | event _ | silent => true
  | completion | unsupported _ => false

/-! ## Calls -/

/-- The parameters of a call as `read` has them, or how the call fails. -/
def paramsOf {α : Type} (call : Call) (read : Value → Except Cause α) : Except Failure α :=
  match call.params with
  | none => .error (.invalidParams "Missing params field")
  | some v => (read v).mapError (.invalidParams ·.message)

/-- The reply to a request; none to a notification. -/
def replyTo (call : Call) (result : Except Failure Value) : List Outgoing :=
  match call.id, result with
  | none, _ => []
  | some id, .ok value => [.result id value]
  | some id, .error failure => [.failure id failure]

/-- How a method fails that cannot be called at the stage of the server. -/
def wrongStage (stage : Stage) : Failure :=
  match stage with
  | .uninitialized => .notInitialized
  | _ => .invalidRequest

/-- The request that begins a session. -/
def start (s : Server) (c : Call) : Server × List Outgoing :=
  if s.stage ≠ .uninitialized then (s, replyTo c (.error .invalidRequest))
  else if c.id.isNone then (s, [])
  else
    match paramsOf c Params.initialization with
    | .error failure => (s, replyTo c (.error failure))
    | .ok options =>
      let (session, notices) := s.session.step (.started options)
      (⟨.running, session⟩, notices.map log ++ replyTo c (.ok capabilities))

/-- The request that ends a session. -/
def shutdown (s : Server) (c : Call) : Server × List Outgoing :=
  if s.stage ≠ .running then (s, replyTo c (.error (wrongStage s.stage)))
  else
    ({ s with stage := .shutDown }, replyTo c <|
      match c.params with
      | none => .ok .null
      | some v => .error (.invalidParams ("Unexpected params: " ++ v.text)))

/-- Performs a method. -/
def perform (s : Server) (c : Call) : Method → Server × List Outgoing
  | .event read =>
    match paramsOf c read with
    | .ok event =>
      let (session, notices) := s.session.step event
      ({ s with session }, notices.map log)
    | .error _ => (s, [])
  | .silent => (s, [])
  | .completion => (s, replyTo c do
    let (document, p) ← paramsOf c Params.completion
    return completionList (s.session.complete document p))
  | .unsupported shape => (s, replyTo c do
    paramsOf c shape
    throw (.methodNotFound none))

/-- The notification that takes back a request.  Requests are answered at once, so it comes too
late. -/
def cancellation : String :=
  "$/cancelRequest"

/-- A server that does not know a method may pass over it if its name begins like this. -/
def isOptional (method : String) : Bool :=
  "$/".isPrefixOf method

/-- Takes in a call. -/
def call (s : Server) (c : Call) : Server × List Outgoing :=
  match c.method with
  | "initialize" => s.start c
  | "shutdown" => s.shutdown c
  | "exit" => ({ s with stage := .exited }, [])
  | name =>
    match Method.ofName? name with
    | some m =>
      if s.stage ≠ .running then (s, replyTo c (.error (wrongStage s.stage)))
      else if m.isNotification && c.id.isSome then (s, replyTo c (.error .invalidRequest))
      else s.perform c m
    | none =>
      if name = cancellation then (s, replyTo c (.error .invalidRequest))
      else if isOptional name then (s, [])
      else (s, replyTo c (.error (.methodNotFound (some (.string name)))))

/-- Gives up on a client that sent something that cannot be read: what it means by the rest is not
known. -/
def giveUp (s : Server) (failure : Failure) : Server × List Outgoing :=
  ({ s with stage := .exited }, [.failure .null failure])

/-- Takes in a message of the client.  An empty one says nothing. -/
def receive (s : Server) (text : String) : Server × List Outgoing :=
  if s.stage = .exited ∨ text.isEmpty then (s, [])
  else
    match Message.ofText text with
    | .error failure => s.giveUp failure
    | .ok .reply => (s, [])
    | .ok (.call c) => s.call c

/-- Takes in the bytes of a message.  Bytes that are no text are no JSON. -/
def receiveBytes (s : Server) (body : ByteArray) : Server × List Outgoing :=
  match String.fromUTF8? body with
  | some text => s.receive text
  | none => if s.stage = .exited then (s, []) else s.giveUp .notJson

end Server

end TexCompletion
