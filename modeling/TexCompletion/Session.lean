import TexCompletion.Completion.Item
import TexCompletion.Completion.Provider
import TexCompletion.Trigger

/-!
# Sessions

What a server remembers between requests: the texts of the open documents, the metadata they
contributed and the configuration.  `Session.step` takes in one event, `Session.complete` answers a
request and changes nothing.

The catalog in use and the settings of the provider are worked out from the configuration when they
are needed, so they cannot fall out of step with it.  A configuration that is refused leaves the
session as it was, and the client is told.
-/

namespace TexCompletion

/-- How much a notice matters. -/
inductive Severity where
  | warning
  | info
deriving DecidableEq, Repr

/-- A message for the person in front of the editor. -/
structure Notice where
  severity : Severity
  text : String
deriving DecidableEq, Repr

/-- The state of a server. -/
structure Session where
  /-- The catalog without the extra packages of the configuration. -/
  bundled : Catalog
  config : Config := {}
  registry : Registry := {}
  /-- The texts of the open documents. -/
  documents : Dictionary String := ∅
deriving DecidableEq

/-- What a client tells a server. -/
inductive Session.Event where
  /-- The session begins, perhaps with settings. -/
  | started (options : Option Json.Value)
  /-- The client is ready for messages. -/
  | ready
  /-- The settings have changed. -/
  | configured (settings : Json.Value)
  /-- A document was opened. -/
  | opened (document text : String)
  /-- A document was changed, perhaps several times; each change gives the whole text. -/
  | changed (document : String) (texts : List String)
  /-- A document was closed. -/
  | closed (document : String)
  /-- The packages of a document and their commands are known. -/
  | contributed (document : String) (packages : PackageCommands)

namespace Session

/-- The catalog in use. -/
def catalog (s : Session) : Catalog :=
  s.config.catalog s.bundled

/-- The provider in use. -/
def provider (s : Session) : Provider :=
  .ofConfig s.config

/-! ## Events -/

/-- Takes over the settings of a value, or keeps the old ones and complains. -/
def configure (s : Session) (settings : Json.Value) : Session × List Notice :=
  match Config.ofValue settings with
  | .ok config => ({ s with config }, [])
  | .error e => (s, [⟨.warning, "latex: " ++ e.message⟩])

/-- Settings can change nothing but the configuration, and only if they are accepted. -/
theorem configure_fst (s : Session) (settings : Json.Value) :
    (s.configure settings).1 =
      { s with config := (Config.ofValue settings).toOption.getD s.config } := by
  unfold configure
  cases Config.ofValue settings <;> rfl

/-- Puts the text of a document in place of the one it had. -/
def setText (s : Session) (document text : String) : Session :=
  { s with documents := s.documents.put document text }

/-- Takes in an event; the notices are for the client. -/
def step (s : Session) : Event → Session × List Notice
  | .started options =>
    match options with
    | some settings => s.configure settings
    | none => (s, [])
  | .ready =>
    (s, [⟨.info, "latex server ready, " ++ toString s.catalog.names.length ++
      " packages known"⟩])
  | .configured settings => s.configure settings
  | .opened document text => (s.setText document text, [])
  | .changed document texts =>
    match texts.getLast? with
    | some text => (s.setText document text, [])
    | none => (s, [])
  | .closed document =>
    ({ s with
        documents := s.documents.erase document
        registry := s.registry.remove document }, [])
  | .contributed document packages =>
    ({ s with registry := s.registry.set document packages }, [])

/-- The session after a list of events. -/
def run (s : Session) (events : List Event) : Session :=
  events.foldl (fun s event => (s.step event).1) s

/-! ## Requests -/

/-- The items for a position in a text, if completion is due there.  They replace the word that the
trigger found, up to the cursor. -/
def itemsAt (s : Session) (text : String) (p : Position) : Option (List Completion.Item) := do
  let before ← p.before? text
  let offset ← p.offset? text
  let trigger ← Trigger.find? before
  let request : Request := ⟨text, offset, some s.registry, s.catalog⟩
  let suggestions := (s.provider.suggestions request).onChannel trigger.channel
  return suggestions.map (.ofSuggestion ⟨⟨p.line, trigger.start⟩, p⟩)

/-- The answer to a completion request; nothing if the document is not open or completion is not due
at the position. -/
def complete (s : Session) (document : String) (p : Position) : Option (List Completion.Item) :=
  (s.documents.get? document).bind (s.itemsAt · p)

end Session

end TexCompletion
