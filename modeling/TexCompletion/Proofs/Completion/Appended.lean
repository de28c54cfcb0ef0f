import Mathlib.Logic.Function.Iterate
import TexCompletion.Completion.Provider
import TexCompletion.Proofs.Registry.Enumeration

/-!
# What one run of the provider appends

The commands that a run makes of the metadata follow the places of a registry, one for each place
where `Registry.entryAt?` finds a complete entry (`Registry.isPresentedBy_commands`).  Equal entries of
two documents are therefore both there, and nothing stands for an incomplete one.

`Provider.extend_appends` is the law of a whole run.  The commands of the metadata are the same in
every run with the same registry; the declarations and the names behind them depend on the request,
the template on the provider alone.  Runs compose: each of them appends the same
(`Provider.iterate_extend`).
-/

namespace TexCompletion

/-! ## The commands of the metadata -/

/-- An entry can be suggested. -/
def CommandEntry.IsComplete (entry : CommandEntry) : Prop :=
  entry.snippet.isSome ∧ entry.caption.isSome

namespace Suggestion

/-- A suggestion shows a command of the metadata: a template without a boost, under the caption and
with the tag of the entry, or the tag of packages if it has none. -/
structure Presents (s : Suggestion) (entry : CommandEntry) : Prop where
  channel : s.channel = .command
  tag : s.tag = if entry.tag = "" then "pkg" else entry.tag
  caption : entry.caption = some s.label
  snippet : ∃ template, entry.snippet = some template ∧ s.insertion = .snippet template
  boost : s.boost = none

/-- A suggestion is made of an entry exactly if it presents it. -/
theorem ofEntry?_eq_some_iff {s : Suggestion} {entry : CommandEntry} :
    ofEntry? entry = some s ↔ s.Presents entry := by
  unfold ofEntry?
  constructor
  · intro h
    split at h
    next template caption htemplate hcaption =>
      obtain rfl := Option.some.inj h
      exact ⟨rfl, by simp [packageTag], hcaption, ⟨template, htemplate, rfl⟩, rfl⟩
    next => simp at h
  · rintro ⟨hchannel, htag, hcaption, ⟨template, htemplate, hinsertion⟩, hboost⟩
    obtain ⟨channel, tag, label, insertion, boost⟩ := s
    simp only at hchannel htag hcaption hinsertion hboost
    simp only [hcaption, htemplate, hchannel, htag, hinsertion, hboost, String.isEmpty_iff,
      packageTag]

/-- A suggestion can be made of every complete entry, and of no other. -/
theorem isSome_ofEntry?_iff {entry : CommandEntry} :
    (Suggestion.ofEntry? entry).isSome ↔ entry.IsComplete := by
  obtain ⟨snippet, caption, tag⟩ := entry
  cases snippet <;> cases caption <;> simp [CommandEntry.IsComplete, ofEntry?]

end Suggestion

/-- The suggestions present the complete entries of a registry, each place once, in order. -/
def Registry.IsPresentedBy (registry : Registry) (suggestions : List Suggestion) : Prop :=
  ∃ places : List (Nat × Nat × Nat), places.Pairwise Earlier ∧
    (∀ place entry, registry.entryAt? place = some entry → entry.IsComplete → place ∈ places) ∧
    List.Forall₂ (fun place s => ∃ entry, registry.entryAt? place = some entry ∧ s.Presents entry)
      places suggestions

/-- What a run makes of the commands of a registry presents its complete entries. -/
theorem Registry.isPresentedBy_commands (registry : Registry) :
    registry.IsPresentedBy (registry.commands.filterMap (Suggestion.ofEntry? ·.entry)) := by
  obtain ⟨places, hsorted, hall, hfound⟩ :=
    registry.inOrder_commands.filterMap Suggestion.ofEntry?
  rw [List.filterMap_map] at hfound
  refine ⟨places, hsorted, fun place entry hentry hcomplete => hall place ?_, ?_⟩
  · simpa only [hentry, Option.bind_some] using Suggestion.isSome_ofEntry?_iff.mpr hcomplete
  · refine hfound.imp fun place s hs => ?_
    obtain ⟨entry, hentry, hs⟩ := Option.bind_eq_some_iff.mp hs
    exact ⟨entry, hentry, Suggestion.ofEntry?_eq_some_iff.mp hs⟩

/-! ## Runs one after the other -/

namespace Completions

/-- Suggestions repeated on each channel. -/
def copies (n : Nat) (cs : Completions) : Completions :=
  ⟨(List.replicate n cs.commands).flatten, (List.replicate n cs.packages).flatten⟩

theorem append_copies_zero (prior cs : Completions) : prior ++ cs.copies 0 = prior := by
  change Completions.mk (prior.commands ++ []) (prior.packages ++ []) = prior
  rw [List.append_nil, List.append_nil]

theorem append_copies_succ (prior cs : Completions) (n : Nat) :
    prior ++ cs.copies (n + 1) = prior ++ cs.copies n ++ cs := by
  have hflatten (xs : List Suggestion) :
      (List.replicate (n + 1) xs).flatten = (List.replicate n xs).flatten ++ xs := by
    rw [List.replicate_succ', List.flatten_concat]
  change Completions.mk (_ ++ (List.replicate (n + 1) cs.commands).flatten)
    (_ ++ (List.replicate (n + 1) cs.packages).flatten) = _
  rw [hflatten, hflatten, ← List.append_assoc, ← List.append_assoc]
  rfl

end Completions

namespace Provider

/-- A run on empty lists makes the suggestions for the request. -/
theorem extend_empty (p : Provider) (r : Request) : p.extend r {} = p.suggestions r := rfl

/-- Every run appends what a run on empty lists gives. -/
theorem iterate_extend (p : Provider) (r : Request) (prior : Completions) (n : Nat) :
    (p.extend r)^[n] prior = prior ++ (p.extend r {}).copies n := by
  induction n with
  | zero => exact (prior.append_copies_zero _).symm
  | succ n ih =>
    rw [Function.iterate_succ_apply', ih, extend, extend_empty, Completions.append_copies_succ]

/-! ## One run -/

/-- A command of the metadata has no boost. -/
theorem filter_boost_commands (registry : Registry) :
    (registry.commands.filterMap (Suggestion.ofEntry? ·.entry)).filter (·.boost.isSome) = [] := by
  refine List.filter_eq_nil_iff.mpr fun s hs => ?_
  obtain ⟨contribution, -, h⟩ := List.mem_filterMap.mp hs
  simp [(Suggestion.ofEntry?_eq_some_iff.mp h).boost]

/-- The template is the only suggestion with a boost. -/
theorem filter_boost_suggestions (p : Provider) {r : Request} {registry : Registry}
    (h : r.metadata = some registry) :
    ((p.suggestions r).commands ++ (p.suggestions r).packages).filter (·.boost.isSome) =
      [.emptyDeclaration p.emptyBoost] := by
  have hdeclarations (names : List String) :
      (names.map Suggestion.declaration).filter (·.boost.isSome) = [] := by
    simp [List.filter_map, Function.comp_def, Suggestion.declaration]
  have hpackages (names : List String) :
      (names.map Suggestion.ofPackage).filter (·.boost.isSome) = [] := by
    simp [List.filter_map, Function.comp_def, Suggestion.ofPackage]
  rw [suggestions, h]
  simp only [List.filter_append, filter_boost_commands, hdeclarations, hpackages, List.nil_append,
    List.append_nil]
  rfl

/-- **What a run appends.**  To the commands it adds one suggestion for each complete entry of the
registry, which are the same in every run with this registry, then the declarations, then the
template; to the packages it adds the names.  Only the template has a boost.  Without a registry
nothing is added, and every further run appends what a run on empty lists gives.  The registry has its
documents in the order in which they were first registered, as its two changes show. -/
theorem extend_appends :
    (∀ registry : Registry, ∃ contributed, registry.IsPresentedBy contributed ∧
      ∀ (p : Provider) (text : String) (offset : Nat) (catalog : Catalog) (prior : Completions),
        let r : Request := ⟨text, offset, some registry, catalog⟩
        let declarations := (p.offered r registry).map fun name =>
          (⟨.command, "pkg", "\\usepackage\x7b" ++ name ++ "\x7d",
            .text ("\\usepackage\x7b" ++ name ++ "\x7d"), none⟩ : Suggestion)
        let template : Suggestion := ⟨.command, "pkg", "\\usepackage\x7b\x7d",
          .snippet "\\usepackage\x7b#\x7b\x7d\x7d", some p.emptyBoost⟩
        let commands := contributed ++ declarations ++ [template]
        let packages := (p.offered r registry).map fun name =>
          (⟨.packageParameter, "pkg", name, .text name, none⟩ : Suggestion)
        (p.extend r prior).commands = prior.commands ++ commands ∧
        (p.extend r prior).packages = prior.packages ++ packages ∧
        (commands ++ packages).filter (·.boost.isSome) = [template]) ∧
    (∀ (p : Provider) (text : String) (offset : Nat) (catalog : Catalog) (prior : Completions),
      p.extend ⟨text, offset, none, catalog⟩ prior = prior) ∧
    (∀ (p : Provider) (r : Request) (prior : Completions) (n : Nat),
      (p.extend r)^[n] prior = prior ++ (p.extend r {}).copies n) ∧
    ∀ (registry : Registry) (document : String) (packages : PackageCommands),
      (registry.set document packages).documents.keys =
        (if document ∈ registry.documents.keys then registry.documents.keys
          else registry.documents.keys ++ [document]) ∧
      (registry.remove document).documents.keys =
        registry.documents.keys.filter (· ≠ document) := by
  refine ⟨fun registry => ⟨_, registry.isPresentedBy_commands, ?_⟩, ?_, iterate_extend, ?_⟩
  · intro p text offset catalog prior r declarations template commands packages
    have htemplate : .emptyDeclaration p.emptyBoost = template := rfl
    have hcommands : (p.suggestions r).commands = commands :=
      congrArg (_ ++ declarations ++ [·]) htemplate
    have hboost := filter_boost_suggestions p (r := r) rfl
    rw [hcommands, htemplate] at hboost
    exact ⟨congrArg (prior.commands ++ ·) hcommands, rfl, hboost⟩
  · intro p text offset catalog prior
    exact prior.append_copies_zero {}
  · intro registry document packages
    exact ⟨Dictionary.keys_put _ _ _, Dictionary.keys_erase _ _⟩

end Provider

end TexCompletion
