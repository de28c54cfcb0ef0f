import TexCompletion.Json.Value
import TexCompletion.Position
import TexCompletion.Suggestion
import TexCompletion.Template

/-!
# Completion items

What an editor is told about a suggestion: the text that replaces the word under the cursor, and by
what it is shown, filtered and sorted.  Editors sort by text, so the boost is written in front of
the label as a number of five digits that falls as the boost rises.
-/

namespace TexCompletion

namespace Completion

/-- The sorts of items that editors tell apart by an icon. -/
inductive Kind where
  | text
  | function
  | module
  | snippet
deriving DecidableEq, Repr

/-- The number of a kind in the language server protocol. -/
def Kind.number : Kind → Int
  | text => 1
  | function => 3
  | module => 9
  | snippet => 15

/-- The kind of a classification tag. -/
def Kind.ofTag (tag : String) : Kind :=
  if tag = "pkg" then module
  else if tag = "cmd" then function
  else if tag = "env" then snippet
  else text

/-- How the inserted text is to be read. -/
inductive Format where
  | plainText
  | snippet
deriving DecidableEq, Repr

/-- The number of a format in the language server protocol. -/
def Format.number : Format → Int
  | plainText => 1
  | snippet => 2

/-- An entry of a completion list as the editor gets it. -/
structure Item where
  label : String
  kind : Kind
  /-- The classification tag. -/
  detail : String
  sortText : String
  filterText : String
  format : Format
  /-- The text that is replaced. -/
  range : Range
  newText : String
deriving DecidableEq, Repr

/-- The greatest boost that makes a difference, up or down. -/
def boostLimit : Int :=
  9999

/-- A boost within the limits. -/
def clampBoost (boost : Int) : Int :=
  max (-boostLimit) (min boostLimit boost)

/-- The place of a boost among all, the highest boost first. -/
def rank (boost : Option Int) : Nat :=
  (boostLimit + 1 - clampBoost (boost.getD 0)).toNat

/-- A number with at least five digits. -/
def fiveDigits (n : Nat) : List Char :=
  let digits := Nat.toDigits 10 n
  List.replicate (5 - digits.length) '0' ++ digits

/-- The text by which an item is sorted: by its boost, then by its label. -/
def sortText (boost : Option Int) (label : String) : String :=
  String.ofList (fiveDigits (rank boost)) ++ label

namespace Item

/-- The item of a suggestion that replaces the text in a range. -/
def ofSuggestion (range : Range) (s : Suggestion) : Item where
  label := s.label
  kind := .ofTag s.tag
  detail := s.tag
  sortText := Completion.sortText s.boost s.label
  filterText := s.label
  format := match s.insertion with
    | .text _ => .plainText
    | .snippet _ => .snippet
  range := range
  newText := match s.insertion with
    | .text value => value
    | .snippet template => Template.snippet template

open Json

/-- A position in JSON. -/
def positionJson (p : Position) : Value :=
  .ofMembers [("line", .ofInt p.line), ("character", .ofInt p.character)]

/-- A range in JSON. -/
def rangeJson (r : Range) : Value :=
  .ofMembers [("start", positionJson r.start), ("end", positionJson r.stop)]

/-- An item in JSON. -/
def toJson (i : Item) : Value :=
  .ofMembers [
    ("label", .string i.label),
    ("kind", .ofInt i.kind.number),
    ("detail", .string i.detail),
    ("sortText", .string i.sortText),
    ("filterText", .string i.filterText),
    ("insertTextFormat", .ofInt i.format.number),
    ("textEdit", .ofMembers [("range", rangeJson i.range), ("newText", .string i.newText)])]

end Item

end Completion

end TexCompletion
