import TexCompletion.Proofs.Completion.Contributed
import TexCompletion.Proofs.Session.History

/-!
# Contributions of open documents

The registry is there for the contributions of the open documents.  Closing a document takes it out of
the registry together with its text, but a contribution is registered whether or not its document is
open.  So the order in which a client sends the events of a document decides.

`hasOpenOnly_step` is the invariant: an event keeps the registry within the open documents, unless it
is a contribution to a document that is not open.  Such a contribution breaks it at once.  Hence the
main statement, `hasOpenOnly_iff`: the registry stays within the open documents all along a history
exactly if every contribution is timely (`Timely`), and then whatever completion answers comes of the
catalog and of open documents.  `registered_after_close` is a history that is not timely.
-/

namespace TexCompletion

namespace Session

/-- Every document of the registry is open. -/
def HasOpenOnly (s : Session) : Prop :=
  s.registry.documents.keys ⊆ s.documents.keys

/-- A suggestion is the template of an empty declaration, or is for a name of the catalog, or comes of
what an open document contributes. -/
def OpenSource (s : Session) (suggestion : Suggestion) : Prop :=
  suggestion = .emptyDeclaration s.config.emptyDeclarationBoost ∨
    (∃ name ∈ s.catalog.names, suggestion.IsFor name) ∨
    ∃ document ∈ s.documents.keys, ∃ packages,
      s.registry.get? document = some packages ∧ suggestion.ComesOf packages

/-- Every contribution of a history comes while its document is open, that is while the history so far
leaves it with a text. -/
def Timely (history : List Event) : Prop :=
  ∀ earlier document packages since,
    history = earlier ++ .contributed document packages :: since →
      ∃ text, LastText earlier document text

theorem Timely.of_append {earlier since : List Event} (h : Timely (earlier ++ since)) :
    Timely earlier := by
  rintro front document packages back rfl
  exact h front document packages (back ++ since) (by simp)

/-! ## One event -/

/-- **An event keeps the registry within the open documents**, unless it is a contribution to a
document that is not open. -/
theorem hasOpenOnly_step {s : Session} (h : s.HasOpenOnly) {event : Event}
    (hopen : ∀ document packages, event = .contributed document packages →
      document ∈ s.documents.keys) : (s.step event).1.HasOpenOnly := by
  rw [step_fst]
  intro document hdocument
  cases event with
  | opened d text => exact Dictionary.mem_keys_put.mpr (.inr (h hdocument))
  | changed d texts =>
    change document ∈ (texts.getLast?.elim s.documents (s.documents.put d)).keys
    cases texts.getLast? with
    | none => exact h hdocument
    | some text => exact Dictionary.mem_keys_put.mpr (.inr (h hdocument))
  | closed d =>
    obtain ⟨hne, hmem⟩ := Dictionary.mem_keys_erase.mp hdocument
    exact Dictionary.mem_keys_erase.mpr ⟨hne, h hmem⟩
  | contributed d packages =>
    rcases Dictionary.mem_keys_put.mp hdocument with rfl | hmem
    · exact hopen document packages rfl
    · exact h hmem
  | _ => exact h hdocument

/-- A contribution leaves the registry within the open documents only if its document is one. -/
theorem mem_keys_of_hasOpenOnly_step {s : Session} {document : String} {packages : PackageCommands}
    (h : (s.step (.contributed document packages)).1.HasOpenOnly) : document ∈ s.documents.keys :=
  h (Dictionary.mem_keys_put.mpr (.inl rfl))

/-! ## Answers -/

/-- As long as the registry has open documents only, answers come of the catalog and of open
documents. -/
theorem openSource_of_complete {s : Session} (h : s.HasOpenOnly) {document : String} {p : Position}
    {items : List Completion.Item} (hitems : s.complete document p = some items)
    {item : Completion.Item} (hitem : item ∈ items) :
    ∃ range suggestion, item = .ofSuggestion range suggestion ∧ s.OpenSource suggestion := by
  obtain ⟨text, before, offset, trigger, -, -, -, -, rfl⟩ :=
    (complete_eq_some_iff s document p items).mp hitems
  obtain ⟨suggestion, hsuggestion, rfl⟩ := List.mem_map.mp hitem
  refine ⟨_, suggestion, rfl, ?_⟩
  rcases Provider.source_of_mem_onChannel rfl hsuggestion with
    htemplate | hlisted | ⟨contributor, packages, hget, hcomes⟩
  · exact .inl htemplate
  · exact .inr (.inl hlisted)
  · have hopen : contributor ∈ s.documents.keys :=
      h (Dictionary.mem_keys_iff.mpr ⟨packages, hget⟩)
    exact .inr (.inr ⟨contributor, hopen, packages, hget, hcomes⟩)

/-! ## A run of events -/

/-- A document is open after a run exactly if the history leaves it with a text. -/
theorem mem_keys_documents_run {bundled : Catalog} {history : List Event} {document : String} :
    document ∈ (({ bundled } : Session).run history).documents.keys ↔
      ∃ text, LastText history document text := by
  simp only [Dictionary.mem_keys_iff, documents_run]

/-- After timely contributions the registry has open documents only. -/
theorem Timely.hasOpenOnly_run (bundled : Catalog) {history : List Event} (h : Timely history) :
    (({ bundled } : Session).run history).HasOpenOnly := by
  induction history using List.reverseRecOn with
  | nil => exact List.nil_subset _
  | append_singleton earlier event ih =>
    rw [run_concat]
    refine hasOpenOnly_step (ih h.of_append) fun document packages heq => ?_
    rw [mem_keys_documents_run]
    exact h earlier document packages [] (by rw [heq])

/-- **The registry has open documents only, all along a history, exactly if every contribution comes
while its document is open.**  Then no answer has anything that comes of a document that is closed or
was never opened: every item is the template, or is for a name of the catalog, or comes of an open
document. -/
theorem hasOpenOnly_iff (bundled : Catalog) (history : List Event) :
    (∀ earlier, earlier <+: history →
      let s := ({ bundled } : Session).run earlier
      s.HasOpenOnly ∧
      ∀ document p items, s.complete document p = some items → ∀ item ∈ items,
        ∃ range suggestion, item = .ofSuggestion range suggestion ∧ s.OpenSource suggestion) ↔
      Timely history := by
  constructor
  · rintro h earlier document packages since rfl
    have hprefix : earlier ++ [.contributed document packages] <+:
        earlier ++ .contributed document packages :: since := ⟨since, by simp⟩
    obtain ⟨hopen, -⟩ := h _ hprefix
    rw [run_concat] at hopen
    exact mem_keys_documents_run.mp (mem_keys_of_hasOpenOnly_step hopen)
  · rintro h earlier ⟨since, rfl⟩
    have hopen := h.of_append.hasOpenOnly_run bundled
    exact ⟨hopen, fun document p items hitems item hitem =>
      openSource_of_complete hopen hitems hitem⟩

/-- A contribution that comes after its document was closed stays in the registry, and its package is
offered in another document. -/
theorem registered_after_close :
    let history : List Event := [
      .opened "main.tex" "\\", .opened "pkg.tex" "", .closed "pkg.tex",
      .contributed "pkg.tex" (.ofList [("tikz", [])])]
    let s := ({ bundled := .ofList ["amsmath"] } : Session).run history
    "pkg.tex" ∈ s.registry.documents.keys ∧ "pkg.tex" ∉ s.documents.keys ∧
      (s.complete "main.tex" ⟨0, 1⟩).map (·.map (·.label)) =
        some ["\\usepackage\x7bamsmath\x7d", "\\usepackage\x7btikz\x7d", "\\usepackage\x7b\x7d"] ∧
      ¬ s.HasOpenOnly ∧ ¬ Timely history := by
  intro history s
  have hrun : "pkg.tex" ∈ s.registry.documents.keys ∧ "pkg.tex" ∉ s.documents.keys ∧
      (s.complete "main.tex" ⟨0, 1⟩).map (·.map (·.label)) =
        some ["\\usepackage\x7bamsmath\x7d", "\\usepackage\x7btikz\x7d",
          "\\usepackage\x7b\x7d"] := by
    decide +kernel
  obtain ⟨hregistered, hclosed, hoffered⟩ := hrun
  have hbroken : ¬ s.HasOpenOnly := fun h => hclosed (h hregistered)
  exact ⟨hregistered, hclosed, hoffered, hbroken, fun h => hbroken (h.hasOpenOnly_run _)⟩

end Session

end TexCompletion
