import TexCompletion.Text.Units
import TexCompletion.Text.Lines

/-!
# Cursor positions

An editor names a place in a document by a line and a column, the column counted in UTF-16 units.
Completion needs two readings of such a position: the byte offset in the whole text
(`Position.offset?`) and the text of the line in front of the cursor (`Position.before?`).  Both
rest on `columnText`, so they always speak of the same place.
-/

namespace TexCompletion

open Text

/-- A place in a document: a line counted from zero and a column in UTF-16 units. -/
structure Position where
  line : Nat
  character : Nat
deriving DecidableEq, Repr

/-- The span between two places, the second one excluded. -/
structure Range where
  start : Position
  stop : Position
deriving DecidableEq, Repr

/-- The characters of a line up to column `k`.  It stops before a `\n` or `\r`, so a column past
the end of the line means its end, and a column inside a two-unit character means the place after
that character. -/
def columnText : List Char → Nat → List Char
  | [], _ => []
  | c :: cs, k =>
    if k = 0 ∨ c = '\n' ∨ c = '\r' then [] else c :: columnText cs (k - units c)

/-- What `columnText` takes is a beginning of the line. -/
theorem columnText_isPrefix (l : List Char) (k : Nat) : columnText l k <+: l := by
  induction l generalizing k with
  | nil => simp [columnText]
  | cons c cs ih =>
    rw [columnText]
    split
    · exact List.nil_prefix
    · exact List.cons_prefix_cons.mpr ⟨rfl, ih _⟩

namespace Position

/-- The line in front of the cursor, or nothing when the document has no such line. -/
def beforeChars? (p : Position) (text : List Char) : Option (List Char) :=
  (editorLines text)[p.line]?.map (columnText · p.character)

/-- The byte offset of the cursor, or nothing when the document has no such line. -/
def offsetChars? (p : Position) (text : List Char) : Option Nat :=
  (p.beforeChars? text).map fun before =>
    bytes8 ((editorLines text).take p.line).flatten + bytes8 before

@[inherit_doc beforeChars?]
def before? (p : Position) (text : String) : Option String :=
  (p.beforeChars? text.toList).map String.ofList

@[inherit_doc offsetChars?]
def offset? (p : Position) (text : String) : Option Nat :=
  p.offsetChars? text.toList

/-- There is no line in front of the cursor exactly if the document has too few lines. -/
theorem before?_eq_none_iff {p : Position} {text : String} :
    p.before? text = none ↔ (editorLines text.toList).length ≤ p.line := by
  simp [before?, beforeChars?]

/-- Both readings of a position have a result, or neither has. -/
theorem offset?_isSome (p : Position) (text : String) :
    (p.offset? text).isSome = (p.before? text).isSome := by
  simp [offset?, offsetChars?, before?]

end Position

end TexCompletion
