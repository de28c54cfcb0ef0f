import TexCompletion.Proofs.List.Places
import TexCompletion.Registry

/-!
# What a registry enumerates

A registry is three lists deep: documents, packages and entries.  What it enumerates is found by the
index in each of these lists, and places come in the order of documents, then packages, then entries.
Package names are enumerated in this order (`Registry.inOrder_packageNames`), and so are the commands,
each with its document and its package (`Registry.inOrder_contributions`) or alone
(`Registry.inOrder_commands`).  Equal names and commands of two documents are therefore both there.
-/

namespace TexCompletion

namespace Registry

variable (registry : Registry)

/-- The package name at a place: which document, which of its packages. -/
def packageAt? (place : Nat × Nat) : Option String :=
  registry.documents.toList[place.1]?.bind fun (_, packages) =>
    packages.toList[place.2]?.map Prod.fst

/-- The command at a place, with the names that stand there: which document, which of its packages,
which entry of that. -/
def contributionAt? (place : Nat × Nat × Nat) : Option Contribution :=
  registry.documents.toList[place.1]?.bind fun (document, packages) =>
    packages.toList[place.2.1]?.bind fun (package, entries) =>
      entries[place.2.2]?.map (⟨document, package, ·⟩)

/-- The package names of a registry come in the order of their places. -/
theorem inOrder_packageNames :
    InOrder (Prod.Lex (· < ·) (· < ·)) registry.packageAt? registry.packageNames := by
  have hnames : registry.packageNames =
      registry.documents.toList.flatMap fun (_, packages) => packages.toList.map Prod.fst := by
    rw [packageNames, Dictionary.values, List.flatMap_map]
    rfl
  rw [hnames]
  exact InOrder.flatMap fun _ _ => (InOrder.getElem? _).map _

/-- The entry at a place: which document, which of its packages, which entry of that. -/
def entryAt? (place : Nat × Nat × Nat) : Option CommandEntry :=
  registry.documents.toList[place.1]?.bind fun (_, packages) =>
    packages.toList[place.2.1]?.bind fun (_, entries) => entries[place.2.2]?

/-- Documents come first, then packages, then entries. -/
abbrev Earlier : Nat × Nat × Nat → Nat × Nat × Nat → Prop :=
  Prod.Lex (· < ·) (Prod.Lex (· < ·) (· < ·))

/-- The commands of a registry come in the order of their places. -/
theorem inOrder_contributions : InOrder Earlier registry.contributionAt? registry.commands :=
  InOrder.flatMap fun _ _ => InOrder.flatMap fun _ _ => (InOrder.getElem? _).map _

/-- The commands of a registry are its entries in the order of their places. -/
theorem inOrder_commands :
    InOrder Earlier registry.entryAt? (registry.commands.map (·.entry)) := by
  have hfind : registry.entryAt? = fun place => (registry.contributionAt? place).map (·.entry) := by
    funext place
    simp only [entryAt?, contributionAt?, Option.map_bind, Function.comp_def, Option.map_map,
      Option.map_id']
  rw [hfind]
  exact registry.inOrder_contributions.map _

end Registry

end TexCompletion
