import Mathlib.Data.List.Induction
import TexCompletion.Proofs.Registry.History
import TexCompletion.Session

/-!
# What a session remembers of its history

A session is changed step by step, and what it answers depends on all the steps so far.  This file
reads the same three ingredients of an answer off the history, without running it.

* **The text** of a document (`LastText`): what the last event gave the document, unless the
  document was closed afterwards.
* **The metadata** (`replayed`): only contributions and closings matter, in their order.
* **The settings** (`lastAccepted`): those of the last value that was accepted.

`documents_run`, `registry_run` and `config_run` say that the session agrees with each of them after
every run.  Each is an induction along the history from its end.  They share their step, the
equation `step_fst` on what an event does to each part of the state.  The main statement,
`complete_after_history`, puts them together: it tells when there is no answer, and which one there
is otherwise.
-/

namespace TexCompletion

namespace Session

/-! ## What an event means to each part of the state -/

namespace Event

/-- The text that an event gives a document.  The last of several contents counts, and a change
without content gives nothing. -/
def textOf? (document : String) : Event → Option String
  | .opened d text => if d = document then some text else none
  | .changed d texts => if d = document then texts.getLast? else none
  | _ => none

/-- The event closes a document. -/
def closes (document : String) : Event → Bool
  | .closed d => d = document
  | _ => false

/-- What an event makes of the texts of the open documents. -/
def onDocuments (documents : Dictionary String) : Event → Dictionary String
  | .opened document text => documents.put document text
  | .changed document texts => texts.getLast?.elim documents (documents.put document)
  | .closed document => documents.erase document
  | _ => documents

/-- The change of the registry that an event brings. -/
def registryChange? : Event → Option Registry.Change
  | .contributed document packages => some (.set document packages)
  | .closed document => some (.remove document)
  | _ => none

/-- The settings that an event brings, if they are accepted. -/
def accepted? : Event → Option Config
  | .started (some settings) => (Config.ofValue settings).toOption
  | .configured settings => (Config.ofValue settings).toOption
  | _ => none

end Event

/-! ## Reading a history -/

/-- The history leaves a document with a text: an event gave it that text, and no later event gave
it another one or closed it. -/
def LastText (history : List Event) (document text : String) : Prop :=
  ∃ earlier event since,
    history = earlier ++ event :: since ∧ event.textOf? document = some text ∧
      ∀ later ∈ since, later.textOf? document = none ∧ later.closes document = false

/-- The registry that the contributions and closings of a history build up. -/
def replayed (history : List Event) : Registry :=
  .replay (history.filterMap Event.registryChange?)

/-- The last settings of a history that were accepted, or else those of the start. -/
def lastAccepted (history : List Event) : Config :=
  (history.filterMap Event.accepted?).getLast?.getD {}

/-- Nothing leaves a document with a text before there was an event. -/
theorem not_lastText_nil (document text : String) : ¬ LastText [] document text := by
  rintro ⟨before, event, after, h, -⟩
  simp at h

/-- The last event decides, or has nothing to do with the document. -/
theorem lastText_concat (history : List Event) (event : Event) (document text : String) :
    LastText (history ++ [event]) document text ↔
      event.textOf? document = some text ∨
        (event.textOf? document = none ∧ event.closes document = false ∧
          LastText history document text) := by
  rw [LastText, exists_split_concat]
  refine or_congr (by simp) ?_
  simp only [List.forall_mem_append, List.forall_mem_singleton, ← and_assoc, exists_and_right]
  rw [and_assoc, and_comm]
  simp only [LastText, and_assoc]

theorem replayed_concat (history : List Event) (event : Event) :
    replayed (history ++ [event]) =
      event.registryChange?.elim (replayed history) (replayed history).apply := by
  rw [replayed, Registry.replay, List.filterMap_append, List.foldl_append]
  cases h : event.registryChange? <;> simp [h, replayed, Registry.replay]

theorem lastAccepted_concat (history : List Event) (event : Event) :
    lastAccepted (history ++ [event]) = event.accepted?.getD (lastAccepted history) := by
  rw [lastAccepted, List.filterMap_append]
  cases h : event.accepted? <;> simp [h, lastAccepted]

/-! ## What one event does -/

/-- **What an event does**, part by part: settings that are accepted replace the configuration, the
registry and the documents each take their own change, and nothing else moves. -/
theorem step_fst (s : Session) (event : Event) :
    (s.step event).1 =
      { s with
        config := event.accepted?.getD s.config
        registry := event.registryChange?.elim s.registry s.registry.apply
        documents := event.onDocuments s.documents } := by
  cases event with
  | started options =>
    cases options with
    | none => rfl
    | some settings => exact configure_fst s settings
  | configured settings => exact configure_fst s settings
  | changed d texts =>
    simp only [step, Event.accepted?, Event.registryChange?, Event.onDocuments]
    cases texts.getLast? <;> rfl
  | _ => rfl

/-- What a document has after an event: nothing if the event closes it, else the text it gives, else
what the document had. -/
theorem get?_onDocuments (event : Event) (documents : Dictionary String) (document : String) :
    (event.onDocuments documents).get? document =
      if event.closes document then none
      else (event.textOf? document).or (documents.get? document) := by
  cases event with
  | opened d text =>
    simp only [Event.onDocuments, Dictionary.get?_put, Event.closes, Event.textOf?]
    by_cases h : document = d <;> simp [h, Ne.symm]
  | changed d texts =>
    simp only [Event.onDocuments, Event.closes, Event.textOf?]
    cases texts.getLast? with
    | none => simp
    | some text =>
      simp only [Option.elim_some, Dictionary.get?_put]
      by_cases h : document = d <;> simp [h, Ne.symm]
  | closed d =>
    simp only [Event.onDocuments, Dictionary.get?_erase, Event.closes, Event.textOf?]
    by_cases h : document = d <;> simp [h, Ne.symm]
  | _ => rfl

/-! ## What a run of events does -/

@[simp] theorem run_nil (s : Session) : s.run [] = s := rfl

theorem run_concat (s : Session) (events : List Event) (event : Event) :
    s.run (events ++ [event]) = ((s.run events).step event).1 := by
  simp [run]

variable (bundled : Catalog) (events : List Event)

theorem bundled_run : (({ bundled } : Session).run events).bundled = bundled := by
  induction events using List.reverseRecOn with
  | nil => rfl
  | append_singleton events event ih => rw [run_concat, step_fst, ih]

/-- After every run the settings are those of the last value that was accepted. -/
theorem config_run : (({ bundled } : Session).run events).config = lastAccepted events := by
  induction events using List.reverseRecOn with
  | nil => rfl
  | append_singleton events event ih => rw [run_concat, step_fst, lastAccepted_concat, ih]

/-- After every run the registry is the one that the contributions and closings build up. -/
theorem registry_run : (({ bundled } : Session).run events).registry = replayed events := by
  induction events using List.reverseRecOn with
  | nil => rfl
  | append_singleton events event ih => rw [run_concat, step_fst, replayed_concat, ih]

/-- After every run a document has the text that the history leaves it with. -/
theorem documents_run (document text : String) :
    (({ bundled } : Session).run events).documents.get? document = some text ↔
      LastText events document text := by
  induction events using List.reverseRecOn with
  | nil => simpa using not_lastText_nil document text
  | append_singleton events event ih =>
    rw [run_concat, step_fst, get?_onDocuments, lastText_concat, ← ih]
    cases hc : event.closes document with
    | true =>
      -- an event that closes a document gives it no text
      have ht : event.textOf? document = none := by
        cases event <;> simp_all [Event.closes, Event.textOf?]
      simp [ht]
    | false => cases ht : event.textOf? document <;> simp

/-! ## Runs with requests -/

/-- A step of a run: the client tells something, or it asks for completion. -/
inductive Step where
  | told (event : Event)
  | asked (document : String) (p : Position)

namespace Step

/-- The event of a step; to ask is none. -/
def event? : Step → Option Event
  | .told event => some event
  | .asked _ _ => none

/-- A step that leaves everything as it is: a request, a change without content, or settings that
are refused. -/
def isIdle : Step → Bool
  | .asked _ _ => true
  | .told (.changed _ texts) => texts.isEmpty
  | .told (.started (some settings)) => (Config.ofValue settings).toOption.isNone
  | .told (.configured settings) => (Config.ofValue settings).toOption.isNone
  | .told _ => false

end Step

/-- The session after a step. -/
def advance (s : Session) : Step → Session
  | .told event => (s.step event).1
  | .asked _ _ => s

/-- The session after a run. -/
def after (s : Session) (history : List Step) : Session :=
  history.foldl advance s

/-- Only the events of a run count. -/
theorem after_eq_run (s : Session) (history : List Step) :
    s.after history = s.run (history.filterMap Step.event?) := by
  induction history generalizing s with
  | nil => rfl
  | cons step history ih => cases step <;> exact ih _

theorem advance_of_isIdle (s : Session) {step : Step} (h : step.isIdle = true) :
    s.advance step = s := by
  have hrefused (settings : Json.Value)
      (hs : (Config.ofValue settings).toOption.isNone = true) : (s.configure settings).1 = s := by
    rw [configure_fst, Option.isNone_iff_eq_none.mp hs]
    rfl
  cases step with
  | asked document p => rfl
  | told event =>
    cases event with
    | changed document texts =>
      obtain rfl : texts = [] := List.isEmpty_iff.mp h
      rfl
    | started options =>
      cases options with
      | none => rfl
      | some settings => exact hrefused settings h
    | configured settings => exact hrefused settings h
    | _ => simp [Step.isIdle] at h

/-- Steps that leave everything as it is can be left out of a run. -/
theorem after_filter_not_isIdle (s : Session) (history : List Step) :
    s.after (history.filter (!·.isIdle)) = s.after history := by
  induction history generalizing s with
  | nil => rfl
  | cons step history ih =>
    cases h : step.isIdle with
    | true =>
      rw [List.filter_cons_of_neg (by simp [h]), ih]
      exact congrArg (after · history) (advance_of_isIdle s h).symm
    | false =>
      rw [List.filter_cons_of_pos (by simp [h])]
      exact ih _

/-! ## Answers -/

/-- A request gets no answer exactly if the document is not open, has no such line, or the line in
front of the cursor calls for nothing. -/
theorem complete_eq_none_iff (s : Session) (document : String) (p : Position) :
    s.complete document p = none ↔
      s.documents.get? document = none ∨
        ∃ text, s.documents.get? document = some text ∧
          ((Text.editorLines text.toList).length ≤ p.line ∨
            ∃ before, p.before? text = some before ∧ Trigger.find? before = none) := by
  unfold complete
  cases s.documents.get? document with
  | none => simp
  | some text =>
    have hoffset := Position.offset?_isSome p text
    simp only [Option.bind_some, itemsAt, ← Position.before?_eq_none_iff]
    cases hb : p.before? text with
    | none => simp [hb]
    | some before =>
      obtain ⟨offset, ho⟩ := Option.isSome_iff_exists.mp (hoffset.trans (by simp [hb]))
      cases ht : Trigger.find? before <;> simp [hb, ho, ht]

/-- An answer is made of the suggestions for the text, the registry and the catalog in use, on the
channel that the line in front of the cursor calls for. -/
theorem complete_eq_some_iff (s : Session) (document : String) (p : Position)
    (items : List Completion.Item) :
    s.complete document p = some items ↔
      ∃ text before offset trigger,
        s.documents.get? document = some text ∧ p.before? text = some before ∧
        p.offset? text = some offset ∧ Trigger.find? before = some trigger ∧
        items = ((s.provider.suggestions ⟨text, offset, some s.registry, s.catalog⟩).onChannel
          trigger.channel).map (.ofSuggestion ⟨⟨p.line, trigger.start⟩, p⟩) := by
  simp only [complete, itemsAt, Option.bind_eq_bind, Option.bind_eq_some_iff, Option.pure_def,
    Option.some.injEq]
  constructor
  · rintro ⟨text, hd, before, hb, offset, ho, trigger, ht, rfl⟩
    exact ⟨text, before, offset, trigger, hd, hb, ho, ht, rfl⟩
  · rintro ⟨text, before, offset, trigger, hd, hb, ho, ht, rfl⟩
    exact ⟨text, hd, before, hb, offset, ho, trigger, ht, rfl⟩

/-- **The history determines the answer.**  After any run, a request is answered from the text that
the events left the document with, the registry that contributions and closings build up, and the
last settings that were accepted; steps that change nothing do not count.  The items are the commands or
the package names, as the line in front of the cursor calls for.  Documents are named by the text of their
URL in normal form. -/
theorem complete_after_history (bundled : Catalog) (history : List Step) (document : String)
    (p : Position) :
    let events := history.filterMap Step.event?
    let answer := (({ bundled } : Session).after history).complete document p
    (answer = none ↔
      (¬ ∃ text, LastText events document text) ∨
        ∃ text, LastText events document text ∧
          ((Text.editorLines text.toList).length ≤ p.line ∨
            ∃ before, p.before? text = some before ∧ Trigger.find? before = none)) ∧
    (∀ items, answer = some items ↔
      ∃ text before offset trigger,
        LastText events document text ∧ p.before? text = some before ∧
        p.offset? text = some offset ∧ Trigger.find? before = some trigger ∧
        let offered := (Provider.ofConfig (lastAccepted events)).suggestions
          ⟨text, offset, some (replayed events), (lastAccepted events).catalog bundled⟩
        items = (match trigger.channel with
          | .command => offered.commands
          | .packageParameter => offered.packages).map
            (.ofSuggestion ⟨⟨p.line, trigger.start⟩, p⟩)) ∧
    answer =
      (({ bundled } : Session).after (history.filter (!·.isIdle))).complete document p := by
  intro events answer
  obtain ⟨s, hs⟩ : ∃ s, s = ({ bundled } : Session).after history := ⟨_, rfl⟩
  have hanswer : answer = s.complete document p := by rw [hs]
  have hrun : s = ({ bundled } : Session).run events := hs.trans (after_eq_run _ _)
  have htext (text : String) :
      s.documents.get? document = some text ↔ LastText events document text := by
    rw [hrun, documents_run]
  have habsent : s.documents.get? document = none ↔ ¬ ∃ text, LastText events document text := by
    simp only [← htext, Option.eq_none_iff_forall_ne_some, not_exists, ne_eq]
  have hprovider : s.provider = Provider.ofConfig (lastAccepted events) := by
    rw [provider, hrun, config_run]
  have hcatalog : s.catalog = (lastAccepted events).catalog bundled := by
    rw [catalog, hrun, config_run, bundled_run]
  have hregistry : s.registry = replayed events := by
    rw [hrun, registry_run]
  refine ⟨?_, fun items => ?_, ?_⟩
  · rw [hanswer, complete_eq_none_iff, habsent]
    simp only [htext]
  · rw [hanswer, complete_eq_some_iff, hprovider, hcatalog, hregistry]
    simp only [htext]
    rfl
  · rw [after_filter_not_isIdle]

end Session

end TexCompletion
