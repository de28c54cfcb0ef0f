import TexCompletion.Proofs.Completion.Offered

/-!
# What one document contributes

The packages of a document come to completion in the order in which the registry has them.  Its commands
stand one behind the other among the commands (`contributed_infix_commands`), and its names among the
names on offer, as far as nothing ahead of the document offers them and the text does not declare them
(`contributed_infix_packages`).  Both follow from where the registry has the document: documents ahead of
it come first, the others behind.

The other way round, whatever a provider suggests is the template of an empty declaration, or is for a
name of the catalog, or comes of a document that the registry has (`source_of_mem_onChannel`).
-/

namespace TexCompletion

/-- Of names that come behind others those stay that are not among the others. -/
theorem infix_eraseDups {front names back : List String} (h : names.Nodup) :
    names.filter (· ∉ front) <:+: (front ++ (names ++ back)).eraseDups := by
  have hfilter : names.removeAll front = names.filter (· ∉ front) := by
    refine List.filter_congr fun name _ => ?_
    simp [List.elem_eq_contains]
  have hkept : (names.filter (· ∉ front)).eraseDups = names.filter (· ∉ front) :=
    eraseDups_of_nodup (h.filter _)
  have hsplit : (names ++ back).removeAll front = names.removeAll front ++ back.removeAll front :=
    List.filter_append _ _
  rw [List.eraseDups_append, hsplit, List.eraseDups_append, hfilter, hkept]
  exact ⟨_, _, List.append_assoc _ _ _⟩

namespace Registry

/-- The documents that were registered before one. -/
def ahead (registry : Registry) (document : String) : List (String × PackageCommands) :=
  registry.documents.toList.takeWhile (·.1 ≠ document)

/-- A registry has a document behind those that were registered before it. -/
theorem toList_of_get? {registry : Registry} {document : String} {packages : PackageCommands}
    (h : registry.get? document = some packages) :
    ∃ back, registry.documents.toList = registry.ahead document ++ (document, packages) :: back := by
  obtain ⟨front, back, hlist, hfront⟩ := List.lookup_eq_some_iff.mp h
  refine ⟨back, ?_⟩
  rw [ahead, hlist, List.takeWhile_append_of_pos, List.takeWhile_cons_of_neg (by simp),
    List.append_nil]
  intro p hp
  have hne : document ≠ p.1 := by simpa using hfront p hp
  simpa using hne.symm

end Registry

namespace Provider

variable {registry : Registry} {document : String} {packages : PackageCommands}

/-- The suggestions for the commands of a document, package by package. -/
theorem filterMap_ofEntry? (document : String) (packages : PackageCommands) :
    (packages.toList.flatMap fun (package, entries) =>
      entries.map (Registry.Contribution.mk document package)).filterMap
        (Suggestion.ofEntry? ·.entry) =
      packages.values.flatten.filterMap Suggestion.ofEntry? := by
  rw [Dictionary.values, ← List.flatMap_def, List.filterMap_flatMap, List.filterMap_flatMap]
  simp only [List.filterMap_map, Function.comp_def]

/-- The commands of a document come in the order of its packages. -/
theorem contributed_infix_commands (p : Provider) {r : Request} (hr : r.metadata = some registry)
    (h : registry.get? document = some packages) :
    packages.values.flatten.filterMap Suggestion.ofEntry? <:+: (p.suggestions r).commands := by
  obtain ⟨back, hlist⟩ := Registry.toList_of_get? h
  rw [suggestions, hr]
  simp only [Registry.commands, hlist, List.flatMap_append, List.flatMap_cons, List.filterMap_append,
    filterMap_ofEntry?]
  exact (List.infix_append' _ _ _).trans
    ((List.prefix_append _ _).trans (List.prefix_append _ _)).isInfix

/-- The names on offer ahead of those of a document. -/
def ahead (r : Request) (registry : Registry) (document : String) : List String :=
  r.catalog.names ++ (registry.ahead document).flatMap fun (_, packages) => packages.keys

/-- The names of a document that are left come in the order of its packages. -/
theorem contributed_infix_packages (p : Provider) {r : Request} (hr : r.metadata = some registry)
    (h : registry.get? document = some packages) :
    (packages.keys.filter fun name => name ∉ ahead r registry document ∧ name ∉ p.existing r).map
      Suggestion.ofPackage <:+: (p.suggestions r).packages := by
  obtain ⟨back, hlist⟩ := Registry.toList_of_get? h
  have hnames : r.catalog.names ++ registry.packageNames = ahead r registry document ++
      (packages.keys ++ back.flatMap fun (_, packages) => packages.keys) := by
    rw [Registry.packageNames, Dictionary.values, List.flatMap_map, hlist, List.flatMap_append,
      List.flatMap_cons, ahead, List.append_assoc]
  have hoffer : packages.keys.filter (· ∉ ahead r registry document) <:+:
      offerable r.catalog registry := by
    rw [offerable, hnames]
    exact infix_eraseDups packages.distinct
  have hleft : (packages.keys.filter fun name =>
      name ∉ ahead r registry document ∧ name ∉ p.existing r) =
        (packages.keys.filter (· ∉ ahead r registry document)).filter (· ∉ p.existing r) := by
    rw [List.filter_filter]
    exact List.filter_congr fun name _ => by rw [Bool.decide_and, Bool.and_comm]
  rw [suggestions, hr, hleft]
  exact (hoffer.filter _).map _

end Provider

/-! ## Where a suggestion comes from -/

/-- A name of the registry is the name of a package of some document. -/
theorem Registry.mem_packageNames_iff {registry : Registry} {name : String} :
    name ∈ registry.packageNames ↔
      ∃ document packages, registry.get? document = some packages ∧ name ∈ packages.keys := by
  simp only [packageNames, Dictionary.values, List.mem_flatMap, List.mem_map, Prod.exists,
    exists_eq_right, get?, ← Dictionary.mem_toList_iff]
  constructor
  · rintro ⟨packages, ⟨document, h⟩, hname⟩
    exact ⟨document, packages, h, hname⟩
  · rintro ⟨document, packages, h, hname⟩
    exact ⟨packages, ⟨document, h⟩, hname⟩

/-- The commands of the registry are those of the packages of the documents. -/
theorem Registry.mem_commands {registry : Registry} {c : Contribution}
    (h : c ∈ registry.commands) :
    ∃ packages, registry.get? c.document = some packages ∧ c.entry ∈ packages.values.flatten := by
  simp only [commands, List.mem_flatMap, Prod.exists, List.mem_map] at h
  obtain ⟨document, packages, hpackages, name, entries, hentries, entry, hentry, rfl⟩ := h
  exact ⟨packages, Dictionary.mem_toList_iff.mp hpackages,
    List.mem_flatten.mpr ⟨entries, List.mem_map_of_mem hentries, hentry⟩⟩

namespace Suggestion

/-- A suggestion for a package offers its name or its declaration. -/
def IsFor (s : Suggestion) (name : String) : Prop :=
  s = ofPackage name ∨ s = declaration name

/-- A suggestion comes of the packages of a document: it is for one of them, or for a command of
one. -/
def ComesOf (s : Suggestion) (packages : PackageCommands) : Prop :=
  (∃ name ∈ packages.keys, s.IsFor name) ∨
    ∃ entry ∈ packages.values.flatten, ofEntry? entry = some s

end Suggestion

/-- A suggestion for an offered package is for a name of the catalog, or comes of a document. -/
theorem Provider.source_of_mem_offered {p : Provider} {r : Request} {registry : Registry}
    {name : String} (hname : name ∈ p.offered r registry) {s : Suggestion} (hs : s.IsFor name) :
    (∃ name ∈ r.catalog.names, s.IsFor name) ∨
      ∃ document packages, registry.get? document = some packages ∧ s.ComesOf packages := by
  have hofferable : name ∈ offerable r.catalog registry := List.mem_of_mem_filter hname
  rcases List.mem_append.mp (List.mem_eraseDups.mp hofferable) with hlisted | hbrought
  · exact .inl ⟨name, hlisted, hs⟩
  · obtain ⟨document, packages, hget, hkey⟩ := Registry.mem_packageNames_iff.mp hbrought
    exact .inr ⟨document, packages, hget, .inl ⟨name, hkey, hs⟩⟩

/-- **Nothing else is suggested** than the template, the names of the catalog and what documents of
the registry contribute. -/
theorem Provider.source_of_mem_onChannel {p : Provider} {r : Request} {registry : Registry}
    (hr : r.metadata = some registry) {channel : Channel} {s : Suggestion}
    (h : s ∈ (p.suggestions r).onChannel channel) :
    s = .emptyDeclaration p.emptyBoost ∨ (∃ name ∈ r.catalog.names, s.IsFor name) ∨
      ∃ document packages, registry.get? document = some packages ∧ s.ComesOf packages := by
  rw [suggestions, hr] at h
  cases channel with
  | packageParameter =>
    obtain ⟨name, hname, rfl⟩ := List.mem_map.mp h
    exact .inr (source_of_mem_offered hname (.inl rfl))
  | command =>
    simp only [Completions.onChannel, List.mem_append, List.mem_filterMap, List.mem_map,
      List.mem_singleton] at h
    rcases h with (⟨c, hc, hentry⟩ | ⟨name, hname, rfl⟩) | rfl
    · obtain ⟨packages, hget, hmem⟩ := Registry.mem_commands hc
      exact .inr (.inr ⟨c.document, packages, hget, .inr ⟨c.entry, hmem, hentry⟩⟩)
    · exact .inr (source_of_mem_offered hname (.inr rfl))
    · exact .inl rfl

end TexCompletion
