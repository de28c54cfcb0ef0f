import TexCompletion.Server.Client
import TexCompletion.Server.Shapes

/-!
# Parameters of methods

The forms in which a client passes what a method needs.  Parameters are read from a value, so the
members of an object are met in ascending order of their names, and of two faults the one that comes
first in that order is reported; a missing member is reported after all that are there.
-/

namespace TexCompletion.Server.Params

open Json Parts

/-! ## Requests -/

/-- The shape of the parameters of completion. -/
def completionShape : Shape :=
  .sharing "CompletionParams" [.maybe "context" Shapes.completionContext]
    [Shapes.place, Shapes.workDone, Shapes.partialResult]

/-- The place where completion is asked for. -/
def completion (v : Value) : Except Cause (String × Position) := do
  completionShape v
  Parts.place.ofValue v

/-- The shape of the parameters that begin a session.  What the client can do must be there. -/
def initializationShape : Shape :=
  .record "InitializeParams"
    [.maybe "processId" .nat32,
     .maybe "rootPath" .string,
     .defaulted "rootUri" (.optional Shapes.url),
     .maybe "initializationOptions" .any,
     .needed "capabilities" Client.capabilities,
     .defaulted "trace" (.optional (.words ["off", "messages", "verbose"])),
     .maybe "workspaceFolders" (.array (.record "WorkspaceFolder"
      [.needed "uri" Shapes.url, .needed "name" .string])),
     .maybe "clientInfo" (.record "ClientInfo"
      [.needed "name" .string, .maybe "version" .string]),
     .maybe "locale" .string]

/-- The field of a record that is written as an object or as an array of its fields in order;
`null` stands for nothing. -/
def field? (name : String) (place : Nat) (v : Value) : Option Value :=
  let found :=
    match v with
    | .array vs => vs[place]?
    | v => v.member? name
  found.filter fun v => !(v matches .null)

/-- The options that a client begins a session with; of the parameters only they are kept. -/
def initialization (v : Value) : Except Cause (Option Value) := do
  initializationShape v
  return field? "initializationOptions" 3 v

/-! ## Notifications -/

/-- An opened document while its fields are being read. -/
structure Item where
  uri : Option String := none
  language : Option String := none
  version : Option Int := none
  text : Option String := none

/-- The form of an opened document: its URL and its text. -/
def item : Decoder.Form Item (String × String) where
  name := "struct TextDocumentItem"
  fields := [
    .of "uri" Url.decoder (·.uri) fun v d => { d with uri := some v },
    .of "languageId" .string (·.language) fun v d => { d with language := some v },
    .of "version" .int32 (·.version) fun v d => { d with version := some v },
    .of "text" .string (·.text) fun v d => { d with text := some v }]
  empty := {}
  complete d := do
    let uri ← Decoder.required "uri" d.uri
    let _ ← Decoder.required "languageId" d.language
    let _ ← Decoder.required "version" d.version
    return (uri, ← Decoder.required "text" d.text)
  completeInOrder d := do
    let uri ← d.uri
    let _ ← d.language
    let _ ← d.version
    return (uri, ← d.text)

/-- An opened document. -/
def opened : Decoder.Form (Option (String × String)) (String × String) :=
  single "struct DidOpenTextDocumentParams" "textDocument" (.record item)

/-- A change while its fields are being read. -/
structure Change where
  range : Option (Option (Position × Position)) := none
  length : Option (Option Nat) := none
  text : Option String := none

/-- The form of a change, of which only the text is kept. -/
def change : Decoder.Form Change String where
  name := "struct TextDocumentContentChangeEvent"
  fields := [
    .of "range" (.optional Parts.range) (·.range) fun v d => { d with range := some v },
    .of "rangeLength" (.optional .nat32) (·.length) fun v d => { d with length := some v },
    .of "text" .string (·.text) fun v d => { d with text := some v }]
  empty := {}
  complete d := Decoder.required "text" d.text
  completeInOrder d := do
    let _ ← d.range
    let _ ← d.length
    d.text

/-- A changed document and the texts it went through. -/
def changed : Decoder.Form (Option String × Option (List String)) (String × List String) :=
  pair "struct DidChangeTextDocumentParams" "textDocument" "contentChanges"
    (.checked (.record (pair "struct VersionedTextDocumentIdentifier" "uri" "version"
      Url.decoder .int32)) fun (uri, _) => .ok uri)
    (.array (.record change))

/-- A closed document. -/
def closed : Decoder.Form (Option String) String :=
  single "struct DidCloseTextDocumentParams" "textDocument" identifier

/-- Changed settings. -/
def configured : Decoder.Form (Option Value) Value :=
  single "struct DidChangeConfigurationParams" "settings" .any

/-- The client is ready: a record without fields. -/
def ready : Decoder.Form Unit Unit where
  name := "struct InitializedParams"
  fields := []
  empty := ()
  complete := .ok
  completeInOrder := some

end TexCompletion.Server.Params
