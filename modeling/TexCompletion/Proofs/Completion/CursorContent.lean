import TexCompletion.Completion.Provider
import TexCompletion.Proofs.Completion.CursorLine
import TexCompletion.Proofs.Declaration.Scan

/-!
# What stands on the line of the cursor

The search for declarations leaves out the line of the cursor, so what stands there should have no
influence on what is suggested: a name that is half typed must not hide the package it is meant for.

The line is cut out as a stretch of text without line feeds, with the cursor in it or at one of its
ends (`CursorWithin`).  `scanChars_cursorWithin` tells what the search finds around such a stretch, in
terms of the text before and the text after it alone.  That is why the stretch can be exchanged for any
other (`extend_cursorWithin`).
-/

namespace TexCompletion

open Text Declaration

/-- The offset is in the stretch that stands between two parts of a text, or at one of its ends.  It
may be inside a character, and if nothing follows the stretch it may be past the end of the text. -/
def CursorWithin (before stretch after : List Char) (offset : Nat) : Prop :=
  bytes8 before ≤ offset ∧ (offset ≤ bytes8 before + bytes8 stretch ∨ after = [])

instance (before stretch after : List Char) (offset : Nat) :
    Decidable (CursorWithin before stretch after offset) :=
  inferInstanceAs (Decidable (_ ∧ _))

variable {before stretch after : List Char} {offset : Nat}

/-- Between the cursor and the start of a stretch without line feeds there is no line feed. -/
theorem lineFeedsBefore_cursorWithin (hstretch : '\n' ∉ stretch)
    (hcursor : CursorWithin before stretch after offset) :
    lineFeedsBefore (before ++ stretch ++ after) offset = before.count '\n' := by
  obtain ⟨hstart, hstop⟩ := hcursor
  obtain ⟨k, rfl⟩ := Nat.exists_eq_add_of_le hstart
  have hk : k ≤ bytes8 stretch ∨ after = [] := hstop.imp_left Nat.le_of_add_le_add_left
  rw [List.append_assoc, lineFeedsBefore_append_add, lineFeedsBefore_eq_zero hstretch hk,
    Nat.add_zero]

/-- A stretch without line feeds goes to the first line of what follows it. -/
theorem tail_pieces_append (hstretch : '\n' ∉ stretch) (after : List Char) :
    (pieces (stretch ++ after)).tail = (pieces after).tail := by
  rw [pieces_append, pieces_of_not_mem hstretch]
  rfl

/-- **The search does not look at the stretch** that the cursor is in: it finds what is declared on
the lines that end before the stretch and on those that begin after it. -/
theorem Declaration.scanChars_cursorWithin (hstretch : '\n' ∉ stretch)
    (hcursor : CursorWithin before stretch after offset) :
    scanChars (before ++ stretch ++ after)
        (lineFeedsBefore (before ++ stretch ++ after) offset + 1) =
      ((pieces before).dropLast.map dropReturn).flatMap namesIn ++
        (linesOf (pieces after).tail).flatMap namesIn := by
  rw [lineFeedsBefore_cursorWithin hstretch hcursor, List.append_assoc, scanChars_cut,
    tail_pieces_append hstretch]

/-- Suggestions depend on the text and the cursor only through the packages that the document
declares. -/
theorem suggestions_congr {p : Provider} {r r' : Request} (hmetadata : r.metadata = r'.metadata)
    (hcatalog : r.catalog = r'.catalog) (hexisting : p.existing r = p.existing r') :
    p.suggestions r = p.suggestions r' := by
  simp only [Provider.suggestions, Provider.offered, hmetadata, hcatalog, hexisting]

/-- **What stands around the cursor does not matter.**  Between any two parts of a text, in particular
between the lines before and the lines after, one stretch without line feeds is put in the place of
another, and the cursor is anywhere in them.  With any settings, catalog and metadata, the same
suggestions are added to those there are. -/
theorem extend_cursorWithin (config : Config) (catalog : Catalog) (metadata : Option Registry)
    (prior : Completions) {before after line line' : String} {offset offset' : Nat}
    (hline : '\n' ∉ line.toList) (hline' : '\n' ∉ line'.toList)
    (hcursor : CursorWithin before.toList line.toList after.toList offset)
    (hcursor' : CursorWithin before.toList line'.toList after.toList offset') :
    (Provider.ofConfig config).extend ⟨before ++ line ++ after, offset, metadata, catalog⟩ prior =
      (Provider.ofConfig config).extend ⟨before ++ line' ++ after, offset', metadata, catalog⟩
        prior := by
  have hexisting :
      (Provider.ofConfig config).existing ⟨before ++ line ++ after, offset, metadata, catalog⟩ =
        (Provider.ofConfig config).existing
          ⟨before ++ line' ++ after, offset', metadata, catalog⟩ := by
    simp only [Provider.existing, Provider.ofConfig, Request.lineNumber, scan,
      String.toList_append, scanChars_cursorWithin hline hcursor,
      scanChars_cursorWithin hline' hcursor']
  exact congrArg (prior ++ ·) (suggestions_congr rfl rfl hexisting)

/-- A declaration in place of a half-typed one, in front of `\r\n`: `amsmath` is offered both times.
The first cursor is inside a character, the second at the end of the line. -/
theorem extend_cursorWithin_amsmath :
    let before := "\\usepackage\x7btikz\x7d\n"
    let after := "\r\nHello"
    let line := "😀\\usepackage\x7bamsmath\x7d"
    let line' := "\\usepackage\x7bams"
    let catalog : Catalog := .ofList ["amsmath", "tikz"]
    let result := (Provider.ofConfig {}).extend ⟨before ++ line ++ after, 20, some {}, catalog⟩ {}
    '\n' ∉ line.toList ∧ '\n' ∉ line'.toList ∧
      CursorWithin before.toList line.toList after.toList 20 ∧
      CursorWithin before.toList line'.toList after.toList 33 ∧
      result =
        (Provider.ofConfig {}).extend ⟨before ++ line' ++ after, 33, some {}, catalog⟩ {} ∧
      result.packages = [.ofPackage "amsmath"] := by
  intro before after line line' catalog result
  have hline : '\n' ∉ line.toList := by decide
  have hline' : '\n' ∉ line'.toList := by decide
  have hcursor : CursorWithin before.toList line.toList after.toList 20 := by decide
  have hcursor' : CursorWithin before.toList line'.toList after.toList 33 := by decide
  refine ⟨hline, hline', hcursor, hcursor',
    extend_cursorWithin {} catalog (some {}) {} hline hline' hcursor hcursor', ?_⟩
  decide +kernel

end TexCompletion
