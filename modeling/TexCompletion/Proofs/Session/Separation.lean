import TexCompletion.Proofs.Session.History

/-!
# Documents are kept apart

Documents share the settings and the registry, and that is all they share: the text of one is nothing
to the completions of another.

Seen from one document, two sessions are the same (`SameFor`) if they agree on all they share and on
the text of that document.  `sameFor_step` says that the same event keeps them the same, and
`sameFor_step_of_hidden` that an event which gives a text to another document makes no difference to
be seen.  By induction along a run, all that is answered to a document stays when such events are taken
out (`answersTo_filter`).  A run whose other texts are replaced is the same run once they are taken
out, so the main statement, `answersTo_of_other_texts`, has both.
-/

namespace TexCompletion

namespace Session

/-! ## What is seen from a document -/

/-- From a document the two sessions look the same: they have the same settings and registry, and the
same text of the document. -/
structure SameFor (document : String) (s t : Session) : Prop where
  bundled : s.bundled = t.bundled
  config : s.config = t.config
  registry : s.registry = t.registry
  text : s.documents.get? document = t.documents.get? document

/-- An event is hidden from a document if it gives a text to another one. -/
def Event.isHidden (document : String) : Event → Bool
  | .opened d _ => d ≠ document
  | .changed d _ => d ≠ document
  | _ => false

/-- A step is hidden from a document if its event is. -/
def Step.isHidden (document : String) : Step → Bool
  | .told event => event.isHidden document
  | .asked _ _ => false

/-- The position at which a step asks for completion in a document. -/
def Step.request? (document : String) : Step → Option Position
  | .asked d p => if d = document then some p else none
  | .told _ => none

/-- All that is answered to the requests for a document in a run. -/
def answersTo (document : String) (s : Session) : List Step → List (Option (List Completion.Item))
  | [] => []
  | step :: run =>
    (step.request? document).toList.map (s.complete document) ++
      answersTo document (s.advance step) run

/-- The second step is the first, but for the texts if it gives some to a document other than the
given one. -/
inductive Retexts (document : String) : Step → Step → Prop
  | same (step : Step) : Retexts document step step
  | opened {d : String} (other : d ≠ document) (text text' : String) :
    Retexts document (.told (.opened d text)) (.told (.opened d text'))
  | changed {d : String} (other : d ≠ document) (texts texts' : List String) :
    Retexts document (.told (.changed d texts)) (.told (.changed d texts'))

variable {document : String} {s t : Session}

/-! ## One step -/

theorem SameFor.refl (document : String) (s : Session) : SameFor document s s :=
  ⟨rfl, rfl, rfl, rfl⟩

/-- Sessions that look the same from a document answer it alike. -/
theorem SameFor.complete_eq (h : SameFor document s t) (p : Position) :
    s.complete document p = t.complete document p := by
  have hcatalog : s.catalog = t.catalog := by rw [catalog, catalog, h.config, h.bundled]
  have hprovider : s.provider = t.provider := by rw [provider, provider, h.config]
  simp only [complete, itemsAt, h.text, h.registry, hcatalog, hprovider]

/-- The same event keeps two sessions the same for a document. -/
theorem sameFor_step (h : SameFor document s t) (event : Event) :
    SameFor document (s.step event).1 (t.step event).1 := by
  rw [step_fst, step_fst]
  refine ⟨h.bundled, ?_, ?_, ?_⟩
  · simp only [h.config]
  · simp only [h.registry]
  · simp only [get?_onDocuments, h.text]

/-- A session looks the same after an event that is hidden from the document. -/
theorem sameFor_step_of_hidden (h : SameFor document s t) {event : Event}
    (hidden : event.isHidden document = true) : SameFor document s (t.step event).1 := by
  -- the event neither closes the document nor gives it a text
  have hclosed : event.closes document = false := by
    cases event <;> simp_all [Event.isHidden, Event.closes]
  have htext : event.textOf? document = none := by
    cases event <;> simp_all [Event.isHidden, Event.textOf?]
  have hshared : event.accepted? = none ∧ event.registryChange? = none := by
    cases event <;> simp_all [Event.isHidden, Event.accepted?, Event.registryChange?]
  rw [step_fst, hshared.1, hshared.2]
  refine ⟨h.bundled, h.config, h.registry, ?_⟩
  rw [get?_onDocuments, hclosed, htext]
  exact h.text

/-! ## A run -/

/-- Events that are hidden from a document can be taken out of a run: its requests are answered as
before. -/
theorem answersTo_filter (h : SameFor document s t) (run : List Step) :
    answersTo document s (run.filter (!·.isHidden document)) = answersTo document t run := by
  induction run generalizing s t with
  | nil => rfl
  | cons step run ih =>
    cases step with
    | asked d p =>
      rw [List.filter_cons_of_pos rfl, answersTo, answersTo, funext h.complete_eq]
      exact congrArg _ (ih h)
    | told event =>
      cases hhidden : event.isHidden document with
      | true =>
        rw [List.filter_cons_of_neg (by simp [Step.isHidden, hhidden])]
        exact ih (sameFor_step_of_hidden h hhidden)
      | false =>
        rw [List.filter_cons_of_pos (by simp [Step.isHidden, hhidden])]
        exact ih (sameFor_step h event)

/-- A step that is not the same has another one in its place, and both are hidden. -/
theorem Retexts.eq_or_isHidden {step step' : Step} (h : Retexts document step step') :
    step = step' ∨ step.isHidden document = true ∧ step'.isHidden document = true := by
  cases h with
  | same => exact .inl rfl
  | opened other => exact .inr (by simp [Step.isHidden, Event.isHidden, other])
  | changed other => exact .inr (by simp [Step.isHidden, Event.isHidden, other])

/-- Runs that differ in the texts of other documents are the same once these are taken out. -/
theorem filter_eq_of_retexts {run other : List Step}
    (h : List.Forall₂ (Retexts document) run other) :
    run.filter (!·.isHidden document) = other.filter (!·.isHidden document) := by
  induction h with
  | nil => rfl
  | cons hstep _ ih =>
    rcases hstep.eq_or_isHidden with rfl | ⟨hhidden, hhidden'⟩
    · simp only [List.filter_cons, ih]
    · rw [List.filter_cons_of_neg (by simp [hhidden]), List.filter_cons_of_neg (by simp [hhidden']),
        ih]

/-- **The text of a document is nothing to the others.**  Take out of any run, from any state, all
events that open or change other documents than the given one, or replace the texts in them by any
others: every request for the document is answered as before.  What other documents contribute stays in
the run, and so do the events that close them and those that bring settings. -/
theorem answersTo_of_other_texts (document : String) (s : Session) (run : List Step) :
    answersTo document s (run.filter (!·.isHidden document)) = answersTo document s run ∧
      ∀ other, List.Forall₂ (Retexts document) run other →
        answersTo document s other = answersTo document s run := by
  have hfilter (run : List Step) := answersTo_filter (.refl document s) run
  refine ⟨hfilter run, fun other h => ?_⟩
  calc answersTo document s other
      = answersTo document s (other.filter (!·.isHidden document)) := (hfilter other).symm
    _ = answersTo document s (run.filter (!·.isHidden document)) := by
        rw [filter_eq_of_retexts h]
    _ = answersTo document s run := hfilter run

/-- The other document loads the package that it contributes, or has another text, or none: the package
is offered in any case, until the document is closed. -/
theorem answersTo_of_other_texts_pkg :
    let run (texts : List String) : List Step := [
      .told (.opened "main.tex" "\\usepackage\x7b"), .told (.opened "pkg.tex" ""),
      .told (.contributed "pkg.tex" (.ofList [("tikz", [])])), .told (.changed "pkg.tex" texts),
      .asked "main.tex" ⟨0, 12⟩, .told (.closed "pkg.tex"), .asked "main.tex" ⟨0, 12⟩]
    let s : Session := { bundled := .ofList ["amsmath"] }
    let loads := run ["\\usepackage\x7btikz\x7d"]
    List.Forall₂ (Retexts "main.tex") loads (run []) ∧
      answersTo "main.tex" s (run []) = answersTo "main.tex" s loads ∧
      answersTo "main.tex" s (loads.filter (!·.isHidden "main.tex")) =
        answersTo "main.tex" s loads ∧
      (answersTo "main.tex" s loads).map (·.map (·.map (·.label))) =
        [some ["amsmath", "tikz"], some ["amsmath"]] := by
  intro run s loads
  have hretexts : List.Forall₂ (Retexts "main.tex") loads (run []) :=
    .cons (.same _) (.cons (.same _) (.cons (.same _) (.cons (.changed (by decide) _ _)
      (.cons (.same _) (.cons (.same _) (.cons (.same _) .nil))))))
  obtain ⟨hfilter, hother⟩ := answersTo_of_other_texts "main.tex" s loads
  exact ⟨hretexts, hother _ hretexts, hfilter, by decide +kernel⟩

end Session

end TexCompletion
