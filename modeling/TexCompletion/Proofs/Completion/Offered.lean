import Mathlib.Data.List.Induction
import TexCompletion.Completion.Provider
import TexCompletion.Proofs.Completion.CursorLine

/-!
# Which packages are offered, and in what order

The names on offer come from three sources that may overlap: the bundled catalog, the configuration
and the registry.  The catalog drops repetitions when it is extended, and a request drops them again
when it adds the names of the registry.  `offerable_catalog` says that the two rounds come to one:
the first occurrences in the three sources, one after the other.

`extend_offered` is the law of both channels.  The package names and the declarations that a
provider adds run over the same names, those of the sources in order of first occurrence, less the
ones that the document declares on lines other than that of the cursor.
-/

namespace TexCompletion

/-! ## First occurrences -/

/-- A list without repetitions consists of first occurrences. -/
theorem eraseDups_of_nodup {names : List String} (h : names.Nodup) : names.eraseDups = names := by
  induction names with
  | nil => rfl
  | cons name names ih =>
    obtain ⟨hname, hnames⟩ := List.nodup_cons.mp h
    have hfilter : names.filter (fun other => !other == name) = names :=
      List.filter_eq_self.mpr fun other hother => by
        simpa using fun heq : other = name => hname (heq ▸ hother)
    rw [List.eraseDups_cons, hfilter, ih hnames]

/-- Dropping repetitions of the first part beforehand makes no difference. -/
theorem eraseDups_eraseDups_append (names more : List String) :
    (names.eraseDups ++ more).eraseDups = (names ++ more).eraseDups := by
  have hremove : more.removeAll names.eraseDups = more.removeAll names := by
    refine List.filter_congr fun name _ => ?_
    simp [List.elem_eq_contains, List.mem_eraseDups]
  rw [List.eraseDups_append, List.eraseDups_append, hremove,
    eraseDups_of_nodup (nodup_eraseDups names)]

/-- A name at the end counts if it did not occur before. -/
theorem eraseDups_concat (names : List String) (name : String) :
    (names ++ [name]).eraseDups =
      if name ∈ names then names.eraseDups else names.eraseDups ++ [name] := by
  rw [List.eraseDups_append, List.cons_removeAll]
  by_cases h : name ∈ names <;> simp [h, List.eraseDups_cons]

/-- First occurrences come in the order in which they occur first. -/
theorem pairwise_idxOf_eraseDups (names : List String) :
    names.eraseDups.Pairwise fun a b => names.idxOf a < names.idxOf b := by
  induction names using List.reverseRecOn with
  | nil => exact .nil
  | append_singleton names name ih =>
    have hsame : ∀ a ∈ names.eraseDups, (names ++ [name]).idxOf a = names.idxOf a := fun a ha => by
      rw [List.idxOf_append, if_pos (List.mem_eraseDups.mp ha)]
    have hkept : names.eraseDups.Pairwise fun a b =>
        (names ++ [name]).idxOf a < (names ++ [name]).idxOf b := by
      refine ih.imp_of_mem fun {a b} ha hb hab => ?_
      rwa [hsame a ha, hsame b hb]
    rw [eraseDups_concat]
    split
    next => exact hkept
    next hnew =>
      refine List.pairwise_append.mpr ⟨hkept, List.pairwise_singleton _ _, fun a ha b hb => ?_⟩
      rw [List.mem_singleton.mp hb, hsame a ha, List.idxOf_append, if_neg hnew]
      have := List.idxOf_lt_length_of_mem (List.mem_eraseDups.mp ha)
      omega

/-! ## The names on offer -/

/-- The names that may be offered, source by source: the bundled catalog, the configuration, and the
packages of the documents that contributed some. -/
def sources (bundled : Catalog) (config : Config) (registry : Registry) : List String :=
  bundled.names ++ config.extraPackages ++
    registry.documents.toList.flatMap fun (_, packages) => packages.keys

/-- Dropping repetitions twice comes to dropping them once. -/
theorem offerable_catalog (bundled : Catalog) (config : Config) (registry : Registry) :
    offerable (config.catalog bundled) registry = (sources bundled config registry).eraseDups := by
  have hnames : registry.packageNames =
      registry.documents.toList.flatMap fun (_, packages) => packages.keys := by
    rw [Registry.packageNames, Dictionary.values, List.flatMap_map]
  rw [sources, ← hnames]
  exact eraseDups_eraseDups_append _ _

/-- No command of the metadata is inserted as it stands. -/
theorem filter_text_contributed (contributions : List Registry.Contribution) :
    (contributions.filterMap (Suggestion.ofEntry? ·.entry)).filter
      (fun s => s.insertion matches .text _) = [] := by
  refine List.filter_eq_nil_iff.mpr fun s hs => ?_
  obtain ⟨contribution, -, h⟩ := List.mem_filterMap.mp hs
  unfold Suggestion.ofEntry? at h
  split at h
  · obtain rfl := Option.some.inj h
    simp
  · simp at h

/-- Declarations are inserted as they stand. -/
theorem filter_text_declaration (names : List String) :
    (names.map Suggestion.declaration).filter (fun s => s.insertion matches .text _) =
      names.map Suggestion.declaration := by
  refine List.filter_eq_self.mpr fun s hs => ?_
  obtain ⟨name, -, rfl⟩ := List.mem_map.mp hs
  rfl

/-- The commands that are inserted as they stand are the declarations of the names on offer. -/
theorem filter_text_commands (p : Provider) (r : Request) {registry : Registry}
    (h : r.metadata = some registry) :
    (p.suggestions r).commands.filter (fun s => s.insertion matches .text _) =
      (p.offered r registry).map Suggestion.declaration := by
  have htemplate : [Suggestion.emptyDeclaration p.emptyBoost].filter
      (fun s => s.insertion matches .text _) = [] := rfl
  rw [Provider.suggestions, h]
  simp only [List.filter_append]
  rw [filter_text_contributed, filter_text_declaration, htemplate, List.nil_append, List.append_nil]

/-- **The law of the offer.**  What a provider adds to either channel runs over the names of the
sources in order of first occurrence, less those that the document declares elsewhere than on the
line of the cursor.  A name stands for itself on one channel and for its declaration on the other. -/
theorem extend_offered (bundled : Catalog) (config : Config) (registry : Registry)
    (text : String) (offset : Nat) (prior : Completions) :
    let r : Request := ⟨text, offset, some registry, config.catalog bundled⟩
    let known := sources bundled config registry
    let existing := if config.scanDocument then Declaration.scan text r.lineNumber else []
    let names := known.eraseDups.filter (· ∉ existing)
    let result := (Provider.ofConfig config).extend r prior
    HoldsOffset text.toList offset r.lineNumber ∧
    result.packages = prior.packages ++
      names.map (fun name => ⟨.packageParameter, "pkg", name, .text name, none⟩) ∧
    (∃ added, result.commands = prior.commands ++ added ∧
      added.filter (fun s => s.insertion matches .text _) =
        names.map fun name =>
          ⟨.command, "pkg", "\\usepackage\x7b" ++ name ++ "\x7d",
            .text ("\\usepackage\x7b" ++ name ++ "\x7d"), none⟩) ∧
    (∀ name, name ∈ names ↔ name ∈ known ∧ name ∉ existing) ∧
    names.Pairwise fun a b => known.idxOf a < known.idxOf b := by
  intro r known existing names result
  have hnames : (Provider.ofConfig config).offered r registry = names := by
    rw [Provider.offered, offerable_catalog]
    rfl
  refine ⟨holdsOffset_iff.mpr rfl, ?_, ⟨_, rfl, ?_⟩, fun name => ?_, ?_⟩
  · rw [← hnames]
    rfl
  · rw [filter_text_commands _ r rfl, hnames]
    rfl
  · simp [names]
  · exact (pairwise_idxOf_eraseDups known).filter _

end TexCompletion
