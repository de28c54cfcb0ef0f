import TexCompletion.Catalog.Bundled
import TexCompletion.Proofs.Completion.Offered
import TexCompletion.Proofs.Declaration.Scan

/-!
# What the provider inserts and what the scan finds

The provider writes a declaration around any name it knows, the scan reads only names of letters,
digits and underscores.  A package that a document loads in the way the provider itself would write
it is therefore left out if it has such a name (`offered_declared_iff`), and is offered again and
again if it has not (`loaded_tikz_cd_offered`).  Five packages of the bundled catalog have a hyphen
in their names.
-/

namespace TexCompletion

open Text

/-! ## Declarations as text -/

theorem toList_declarationOf (name : String) :
    (declarationOf name).toList = Declaration.keyword ++ '\x7b' :: (name.toList ++ ['\x7d']) := by
  have hopen : "\\usepackage\x7b".toList = Declaration.keyword ++ ['\x7b'] := by decide
  have hclose : "\x7d".toList = ['\x7d'] := rfl
  rw [declarationOf, String.toList_append, String.toList_append, hopen, hclose]
  simp only [List.append_assoc, List.cons_append, List.nil_append]

theorem declarationOf_injective {a b : String} (h : declarationOf a = declarationOf b) : a = b := by
  have hlist := congrArg String.toList h
  rw [toList_declarationOf, toList_declarationOf] at hlist
  exact String.toList_injective (by simpa using hlist)

/-! ## What the scan says about a name -/

theorem mem_scan {name text : String} {excluded : Nat} :
    name ∈ Declaration.scan text excluded ↔
      name.toList ∈ Declaration.scanChars text.toList excluded := by
  rw [Declaration.scan, List.mem_map]
  constructor
  · rintro ⟨cs, hcs, rfl⟩
    simpa using hcs
  · exact fun h => ⟨_, h, String.ofList_toList⟩

/-- Only names can be reported. -/
theorem isName_of_mem_scan {name text : String} {excluded : Nat}
    (h : name ∈ Declaration.scan text excluded) : Declaration.IsName name.toList := by
  obtain ⟨i, line, -, -, hname⟩ := Declaration.mem_scanChars.mp (mem_scan.mp h)
  exact Declaration.isName_of_mem_namesIn hname

/-- A name whose declaration is a whole line is reported, unless that line is excluded. -/
theorem mem_scan_of_line {name text : String} {excluded i : Nat}
    (hname : Declaration.IsName name.toList)
    (hline : (lines text.toList)[i]? = some (declarationOf name).toList)
    (hexcluded : i + 1 ≠ excluded) : name ∈ Declaration.scan text excluded := by
  refine mem_scan.mpr (Declaration.mem_scanChars.mpr ⟨i, _, hline, hexcluded, ?_⟩)
  rw [toList_declarationOf, Declaration.namesIn_declaration hname]
  exact List.mem_singleton_self _

/-- The names of the bundled catalog that no declaration can have. -/
theorem filter_not_isName_bundledNames :
    Catalog.bundledNames.filter (fun package => ¬ Declaration.IsName package.toList) =
      ["unicode-math", "eso-pic", "tikz-cd", "karnaugh-map", "scrlayer-scrpage"] := by
  decide +kernel

/-! ## What is offered -/

/-- A package name is inserted exactly if it is on offer. -/
theorem inserts_name_iff (p : Provider) (r : Request) {registry : Registry}
    (h : r.metadata = some registry) (name : String) :
    (∃ s ∈ (p.suggestions r).packages, s.insertion = .text name) ↔
      name ∈ p.offered r registry := by
  rw [Provider.suggestions, h]
  constructor
  · rintro ⟨s, hs, hins⟩
    obtain ⟨other, hother, rfl⟩ := List.mem_map.mp hs
    exact Insertion.text.inj hins ▸ hother
  · exact fun hname => ⟨_, List.mem_map_of_mem hname, rfl⟩

/-- A declaration is inserted exactly if its package is on offer. -/
theorem inserts_declaration_iff (p : Provider) (r : Request) {registry : Registry}
    (h : r.metadata = some registry) (name : String) :
    (∃ s ∈ (p.suggestions r).commands, s.insertion = .text (declarationOf name)) ↔
      name ∈ p.offered r registry := by
  have hcommands := filter_text_commands p r h
  constructor
  · rintro ⟨s, hs, hins⟩
    have hs : s ∈ (p.offered r registry).map Suggestion.declaration := by
      rw [← hcommands]
      exact List.mem_filter.mpr ⟨hs, by rw [hins]⟩
    obtain ⟨other, hother, rfl⟩ := List.mem_map.mp hs
    exact declarationOf_injective (Insertion.text.inj hins) ▸ hother
  · intro hname
    have hs := List.mem_map_of_mem (f := Suggestion.declaration) hname
    rw [← hcommands] at hs
    exact ⟨_, (List.mem_filter.mp hs).1, rfl⟩

/-- A known package is on offer exactly if the scan does not report it. -/
theorem mem_offered_ofConfig {bundled : Catalog} {config : Config} {registry : Registry}
    {name : String} (hscan : config.scanDocument = true)
    (hknown : name ∈ sources bundled config registry) (text : String) (offset : Nat) :
    let r : Request := ⟨text, offset, some registry, config.catalog bundled⟩
    name ∈ (Provider.ofConfig config).offered r registry ↔
      name ∉ Declaration.scan text r.lineNumber := by
  intro r
  have hexisting : (Provider.ofConfig config).existing r = Declaration.scan text r.lineNumber :=
    if_pos hscan
  have hofferable : name ∈ offerable r.catalog registry := by
    rw [offerable_catalog]
    exact List.mem_eraseDups.mpr hknown
  simp [Provider.offered, hexisting, hofferable]

/-! ## What is inserted is recognised -/

/-- **What the provider inserts, the scan finds, if the name is one that a declaration can have.**
The document loads a known package on a line of its own, in the words of the provider, and the
cursor is elsewhere.  Then the package is offered, on either channel, exactly if its name has some
character other than letters, digits and underscores, or is empty.  In the bundled catalog these are
the five names with a hyphen. -/
theorem offered_declared_iff {bundled : Catalog} {config : Config} {registry : Registry}
    {text name : String} {offset i : Nat} (hscan : config.scanDocument = true)
    (hknown : name ∈ sources bundled config registry)
    (hline : (lines text.toList)[i]? = some (declarationOf name).toList)
    (hcursor : ¬ HoldsOffset text.toList offset (i + 1)) :
    let result := (Provider.ofConfig config).suggestions
      ⟨text, offset, some registry, config.catalog bundled⟩
    ((∃ s ∈ result.packages, s.insertion = .text name) ↔ ¬ Declaration.IsName name.toList) ∧
    ((∃ s ∈ result.commands, s.insertion = .text (declarationOf name)) ↔
      ¬ Declaration.IsName name.toList) ∧
    ∀ package ∈ Catalog.bundled.names, ¬ Declaration.IsName package.toList ↔
      package ∈ ["unicode-math", "eso-pic", "tikz-cd", "karnaugh-map", "scrlayer-scrpage"] := by
  intro result
  have hreported :
      name ∉ Declaration.scan text (lineFeedsBefore text.toList offset + 1) ↔
        ¬ Declaration.IsName name.toList := by
    refine not_congr ⟨isName_of_mem_scan, fun hname => ?_⟩
    exact mem_scan_of_line hname hline fun h => hcursor (holdsOffset_iff.mpr h)
  have hoffered := (mem_offered_ofConfig hscan hknown text offset).trans hreported
  refine ⟨?_, ?_, fun package h => ?_⟩
  · exact (inserts_name_iff _ _ rfl name).trans hoffered
  · exact (inserts_declaration_iff _ _ rfl name).trans hoffered
  · simp [← filter_not_isName_bundledNames, Catalog.mem_ofList.mp h]

/-- A package whose name is a word is left out once it is loaded. -/
theorem offered_declared_amsmath :
    let text := "\\usepackage\x7bamsmath\x7d\nHello"
    let bundled : Catalog := .ofList ["amsmath", "graphicx"]
    let result := (Provider.ofConfig {}).suggestions
      ⟨text, 21, some {}, ({} : Config).catalog bundled⟩
    ({} : Config).scanDocument = true ∧ "amsmath" ∈ sources bundled {} {} ∧
    (lines text.toList)[0]? = some (declarationOf "amsmath").toList ∧
    ¬ HoldsOffset text.toList 21 1 ∧
    (¬ ∃ s ∈ result.packages, s.insertion = .text "amsmath") ∧
    ¬ ∃ s ∈ result.commands, s.insertion = .text (declarationOf "amsmath") := by
  intro text bundled result
  have hname : Declaration.IsName "amsmath".toList := by decide
  have hknown : "amsmath" ∈ sources bundled {} {} := by decide
  have hline : (lines text.toList)[0]? = some (declarationOf "amsmath").toList := by decide
  have hcursor : ¬ HoldsOffset text.toList 21 1 := by decide
  obtain ⟨hpackages, hcommands, -⟩ := offered_declared_iff rfl hknown hline hcursor
  exact ⟨rfl, hknown, hline, hcursor, fun h => hpackages.mp h hname, fun h => hcommands.mp h hname⟩

/-- A package with a hyphen in its name is offered although it is loaded. -/
theorem loaded_tikz_cd_offered :
    let text := "\\usepackage\x7btikz-cd\x7d\n"
    let result := (Provider.ofConfig {}).suggestions
      ⟨text, 21, some {}, ({} : Config).catalog .bundled⟩
    "tikz-cd" ∈ sources .bundled {} {} ∧
    (lines text.toList)[0]? = some (declarationOf "tikz-cd").toList ∧
    ¬ HoldsOffset text.toList 21 1 ∧
    (∃ s ∈ result.packages, s.insertion = .text "tikz-cd") ∧
    ∃ s ∈ result.commands, s.insertion = .text (declarationOf "tikz-cd") := by
  intro text result
  have hknown : "tikz-cd" ∈ sources .bundled {} {} := by
    have h : "tikz-cd" ∈ Catalog.bundledNames := by decide
    simp [sources, Catalog.bundled, Catalog.mem_ofList.mpr h]
  have hscan : ({} : Config).scanDocument = true := rfl
  have hoffered := (mem_offered_ofConfig hscan hknown text 21).mpr fun h =>
    absurd (isName_of_mem_scan h) (by decide)
  exact ⟨hknown, by decide, by decide, (inserts_name_iff _ _ rfl _).mpr hoffered,
    (inserts_declaration_iff _ _ rfl _).mpr hoffered⟩

end TexCompletion
