import TexCompletion.Catalog
import TexCompletion.Registry

/-!
# Completion requests

All that the answer to a request may depend on: the text, the cursor, the registry of package
metadata and the catalog.  Two readings of a request matter.  `Request.lineNumber` is the line that
is left out when the document is searched for declarations, so that a declaration that is being
typed does not hide its own package.  `offerable` lists the packages that are offered unless the
document declares them.
-/

namespace TexCompletion

/-- What a completion request can see. -/
structure Request where
  /-- The text of the document. -/
  text : String
  /-- The byte offset of the cursor. -/
  offset : Nat
  /-- The metadata of the open documents, nothing if the session has no metadata at all. -/
  metadata : Option Registry
  catalog : Catalog
deriving DecidableEq

/-- How many line feeds begin before a byte offset. -/
def lineFeedsBefore : List Char → Nat → Nat
  | [], _ => 0
  | c :: cs, offset =>
    if offset = 0 then 0
    else (if c = '\n' then 1 else 0) + lineFeedsBefore cs (offset - c.utf8Size)

namespace Request

/-- The number of the line that holds the cursor, counted from one.  Only line feeds count, and an
offset past the end of the text means its end. -/
def lineNumber (r : Request) : Nat :=
  lineFeedsBefore r.text.toList r.offset + 1

end Request

/-- The packages that may be offered: those of the catalog, then those the metadata brings in
addition, each once. -/
def offerable (catalog : Catalog) (registry : Registry) : List String :=
  (catalog.names ++ registry.packageNames).eraseDups

end TexCompletion
