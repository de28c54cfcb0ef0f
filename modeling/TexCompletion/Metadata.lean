import TexCompletion.Registry
import TexCompletion.Url.Basic

/-!
# Package metadata messages

What a client sends when it has found the packages of a document: the document, by its URL, and the
packages with their commands.
-/

namespace TexCompletion

open Json

/-- The packages of one document. -/
structure Metadata where
  /-- The URL of the document in normal form. -/
  document : String
  packages : PackageCommands
deriving DecidableEq

namespace Metadata

/-- A message while its fields are being read. -/
structure Draft where
  document : Option String := none
  packages : Option PackageCommands := none

/-- The form of a message.  Without packages it says that the document has none. -/
def form : Decoder.Form Draft Metadata where
  name := "struct PackageMetadataParams"
  fields := [
    .of "uri" Url.decoder (·.document) fun v d => { d with document := some v },
    .of "packages" PackageCommands.decoder (·.packages) fun v d => { d with packages := some v }]
  empty := {}
  complete d := return ⟨← Decoder.required "uri" d.document, d.packages.getD ∅⟩
  completeInOrder d := return ⟨← d.document, d.packages.getD ∅⟩

end Metadata

end TexCompletion
