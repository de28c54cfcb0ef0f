import TexCompletion.Dictionary
import TexCompletion.Json.Decoder

/-!
# Registry of package commands

What the open documents contribute: for each document the packages it uses, and for each package its
commands.  Documents keep the order in which they were first registered, packages and commands the
order in which the metadata listed them, and suggestions follow these orders.
-/

namespace TexCompletion

/-- A command that a package contributes.  Metadata may leave the template or the caption out; such
a command is kept here and left out of suggestions. -/
structure CommandEntry where
  /-- The template to insert. -/
  snippet : Option String
  /-- The label in the completion list. -/
  caption : Option String
  /-- The classification tag, empty if there is none. -/
  tag : String
deriving DecidableEq, Repr

/-- The packages of a document and their commands. -/
abbrev PackageCommands := Dictionary (List CommandEntry)

/-- The contributions of all documents. -/
structure Registry where
  /-- What each document contributes, in order of first registration. -/
  documents : Dictionary PackageCommands := ∅
deriving DecidableEq

namespace Registry

/-- Replaces what a document contributes. -/
def set (r : Registry) (document : String) (packages : PackageCommands) : Registry :=
  ⟨r.documents.put document packages⟩

/-- Forgets a document. -/
def remove (r : Registry) (document : String) : Registry :=
  ⟨r.documents.erase document⟩

/-- Forgets a document and returns what it contributed, if it did. -/
def take (r : Registry) (document : String) : Option PackageCommands × Registry :=
  let (packages, documents) := r.documents.take document
  (packages, ⟨documents⟩)

/-- What a document contributes. -/
def get? (r : Registry) (document : String) : Option PackageCommands :=
  r.documents.get? document

/-- The package names of all documents in order; a name in several documents comes up several
times. -/
def packageNames (r : Registry) : List String :=
  r.documents.values.flatMap Dictionary.keys

/-- A command with the document and the package it belongs to. -/
structure Contribution where
  document : String
  package : String
  entry : CommandEntry
deriving DecidableEq, Repr

/-- All commands, in order of documents, packages and entries. -/
def commands (r : Registry) : List Contribution :=
  r.documents.toList.flatMap fun (document, packages) =>
    packages.toList.flatMap fun (package, entries) =>
      entries.map (⟨document, package, ·⟩)

end Registry

/-! ## Metadata in JSON -/

open Json

/-- A command entry while its fields are being read. -/
structure EntryDraft where
  snippet : Option (Option String) := none
  caption : Option (Option String) := none
  tag : Option String := none

/-- The form of a command entry.  The template and the caption may be missing or `null`, the tag may
be missing only. -/
def CommandEntry.form : Decoder.Form EntryDraft CommandEntry where
  name := "struct CommandEntry"
  fields := [
    .of "snippet" (.optional .string) (·.snippet) fun v d => { d with snippet := some v },
    .of "caption" (.optional .string) (·.caption) fun v d => { d with caption := some v },
    .of "meta" .string (·.tag) fun v d => { d with tag := some v }]
  empty := {}
  complete d := .ok ⟨d.snippet.join, d.caption.join, d.tag.getD ""⟩
  completeInOrder d := return ⟨← d.snippet, ← d.caption, d.tag.getD ""⟩

/-- A command entry in JSON. -/
def CommandEntry.toJson (e : CommandEntry) : Value :=
  .ofMembers [
    ("snippet", .ofOption .string e.snippet),
    ("caption", .ofOption .string e.caption),
    ("meta", .string e.tag)]

/-- Packages with their commands, as an object. -/
def PackageCommands.decoder : Decoder PackageCommands :=
  .object (.array (.record CommandEntry.form)) ∅ fun name entries packages =>
    packages.put name entries

end TexCompletion
