import TexCompletion.Completion.Request
import TexCompletion.Config
import TexCompletion.Declaration
import TexCompletion.Suggestion

/-!
# The completion provider

From a request the provider makes two lists.  The packages are the offerable names that the document
does not declare yet.  The commands are the commands of the metadata, then a declaration for each of
the same names in the same order, and last the template of an empty declaration, the only suggestion
with a boost.

A provider adds to lists that may hold suggestions already and leaves these in place; without any
metadata it adds nothing.
-/

namespace TexCompletion

/-- The tag of packages and of commands whose metadata has none. -/
def packageTag : String :=
  "pkg"

/-- The declaration of a package. -/
def declarationOf (name : String) : String :=
  "\\usepackage\x7b" ++ name ++ "\x7d"

namespace Suggestion

/-- A command of the metadata, if it has both a template and a caption. -/
def ofEntry? (entry : CommandEntry) : Option Suggestion :=
  match entry.snippet, entry.caption with
  | some template, some caption =>
    some ⟨.command, if entry.tag.isEmpty then packageTag else entry.tag, caption,
      .snippet template, none⟩
  | _, _ => none

/-- A package name, to go between the braces of a declaration. -/
def ofPackage (name : String) : Suggestion :=
  ⟨.packageParameter, packageTag, name, .text name, none⟩

/-- The declaration of a package as a whole. -/
def declaration (name : String) : Suggestion :=
  ⟨.command, packageTag, declarationOf name, .text (declarationOf name), none⟩

/-- A declaration whose name is left to fill in. -/
def emptyDeclaration (boost : Int) : Suggestion :=
  ⟨.command, packageTag, declarationOf "", .snippet (declarationOf "#\x7b\x7d"), some boost⟩

end Suggestion

/-- How suggestions are made. -/
structure Provider where
  /-- The boost of the empty declaration. -/
  emptyBoost : Int := 10
  /-- Packages that the document declares are left out. -/
  scanDocument : Bool := true
  /-- Finds the packages that a text declares on lines other than the one of the given number. -/
  scanner : String → Nat → List String := Declaration.scan

namespace Provider

/-- The provider that a configuration asks for. -/
def ofConfig (config : Config) : Provider :=
  { emptyBoost := config.emptyDeclarationBoost, scanDocument := config.scanDocument }

/-- The packages that are not offered because the document declares them. -/
def existing (p : Provider) (r : Request) : List String :=
  if p.scanDocument then p.scanner r.text r.lineNumber else []

/-- The packages that are offered when there is metadata. -/
def offered (p : Provider) (r : Request) (registry : Registry) : List String :=
  let existing := p.existing r
  (offerable r.catalog registry).filter (· ∉ existing)

/-- The suggestions for a request. -/
def suggestions (p : Provider) (r : Request) : Completions :=
  match r.metadata with
  | none => {}
  | some registry =>
    let names := p.offered r registry
    { commands :=
        registry.commands.filterMap (Suggestion.ofEntry? ·.entry) ++
          names.map Suggestion.declaration ++ [.emptyDeclaration p.emptyBoost]
      packages := names.map Suggestion.ofPackage }

/-- Adds the suggestions for a request to those there are. -/
def extend (p : Provider) (r : Request) (prior : Completions) : Completions :=
  prior ++ p.suggestions r

end Provider

end TexCompletion
