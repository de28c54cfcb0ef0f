import TexCompletion.Text.Hex
import TexCompletion.Text.Split

/-!
# Tables of characters

A property of characters is written down as lines of entries.  An entry names a run of characters,
in hexadecimal code points, and may carry a note after a colon: `300-314:230` is the run from 300 to
314 with the note 230, and `100-12e/2:101` is a run that takes every second character.  The entries
of a table are in ascending order of their first characters, so a search ends at the first run that
begins too late.
-/

namespace TexCompletion.Text

/-- A run of characters a fixed step apart, and what a table notes of them. -/
structure Run (α : Type) where
  first : Nat
  last : Nat
  step : Nat
  note : α
deriving DecidableEq, Repr

/-- The character belongs to the run. -/
def Run.holds {α : Type} (r : Run α) (c : Char) : Bool :=
  r.first ≤ c.toNat && c.toNat ≤ r.last && (c.toNat - r.first) % r.step == 0

/-- A table of characters. -/
abbrev Runs (α : Type) := List (Run α)

namespace Runs

/-! ## Looking up -/

/-- The run that holds a character. -/
def find? {α : Type} : Runs α → Char → Option (Run α)
  | [], _ => none
  | r :: rs, c =>
    if c.toNat < r.first then none
    else if r.holds c then some r
    else find? rs c

/-- What the table notes of a character. -/
def note? {α : Type} (runs : Runs α) (c : Char) : Option α :=
  (runs.find? c).map (·.note)

/-- Some run holds the character. -/
def holds {α : Type} (runs : Runs α) (c : Char) : Bool :=
  (runs.find? c).isSome

/-! ## Reading a table -/

/-- A hexadecimal number; characters that are no digits do not count. -/
def number (digits : List Char) : Nat :=
  (digits.filterMap hexValue?).foldl (fun n d => 16 * n + d.val) 0

/-- What precedes the first `sep`, and what follows it. -/
def cut (sep : Char) (cs : List Char) : List Char × List Char :=
  (cs.takeWhile (· ≠ sep), (cs.dropWhile (· ≠ sep)).drop 1)

/-- An entry of a table, whose note `read` understands. -/
def entry {α : Type} (read : List Char → α) (cs : List Char) : Run α :=
  let (span, note) := cut ':' cs
  let (bounds, step) := cut '/' span
  let (first, last) := cut '-' bounds
  { first := number first
    last := if last.isEmpty then number first else number last
    step := if step.isEmpty then 1 else number step
    note := read note }

/-- A table from its lines. -/
def ofLines {α : Type} (read : List Char → α) (lines : List String) : Runs α :=
  lines.flatMap fun line => (splitWhere (· = ' ') line.toList).map (entry read)

/-- The runs of a table without notes. -/
def ofSpans (lines : List String) : Runs Unit :=
  ofLines (fun _ => ()) lines

end Runs

end TexCompletion.Text
