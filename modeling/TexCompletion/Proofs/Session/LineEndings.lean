import TexCompletion.Proofs.Session.LeftOutLine
import TexCompletion.Proofs.Session.Typing
import TexCompletion.Proofs.Text.Returns

/-!
# Line endings make no difference

A document whose lines end in `\n` and the same document with `\r\n` get the same answers, at every
position (`complete_withReturns`).  The byte offset of the cursor is not the same in the two, so the
answer is followed through what is made of the offset.

* **The line in front of the cursor** is the same, since a column stops before either break
  (`beforeChars?_withReturns`).
* **The number of the line** is the same, since it counts line feeds
  (`lineFeedsBefore_withReturns`).
* **The search** sees the same lines (`scan_withReturns`).
-/

namespace TexCompletion

open Text

/-! ## Positions -/

/-- A column stops before `\n` and before `\r\n`. -/
theorem columnText_withReturns (line : List Char) (k : Nat) :
    columnText (withReturns line) k = columnText line k := by
  induction line generalizing k with
  | nil => rfl
  | cons c cs ih =>
    by_cases hc : c = '\n'
    · subst hc
      simp [withReturns_feed, columnText]
    · rw [withReturns_cons_of_ne hc, columnText, columnText, ih]

variable {text : List Char}

/-- The line in front of the cursor stays. -/
theorem Position.beforeChars?_withReturns (p : Position) (h : '\r' ∉ text) :
    p.beforeChars? (withReturns text) = p.beforeChars? text := by
  simp only [beforeChars?, editorLines_withReturns h, List.getElem?_map, Option.map_map,
    Function.comp_def, columnText_withReturns]

/-- The cursor has as many line feeds in front of it in either text. -/
theorem lineFeedsBefore_withReturns {p : Position} {offset offset' : Nat} (h : '\r' ∉ text)
    (hoffset : p.offset? (String.ofList text) = some offset)
    (hoffset' : p.offset? (String.ofList (withReturns text)) = some offset') :
    lineFeedsBefore (withReturns text) offset' = lineFeedsBefore text offset := by
  have hcount := lineFeedsBefore_offset? hoffset
  have hcount' := lineFeedsBefore_offset? hoffset'
  rw [String.toList_ofList] at hcount hcount'
  rw [hcount, hcount', editorLines_withReturns h, ← List.map_take, ← withReturns_flatten,
    count_withReturns]

/-! ## The search -/

theorem Declaration.scan_withReturns (h : '\r' ∉ text) (excluded : Nat) :
    scan (String.ofList (withReturns text)) excluded = scan (String.ofList text) excluded := by
  simp only [scan, scanChars, String.toList_ofList, lines_withReturns h]

/-! ## The answer -/

namespace Session

/-- The items at a position stay. -/
theorem itemsAt_withReturns (s : Session) (p : Position) (h : '\r' ∉ text) :
    s.itemsAt (String.ofList (withReturns text)) p = s.itemsAt (String.ofList text) p := by
  cases hbefore : p.beforeChars? text with
  | none =>
    have hnone : p.before? (String.ofList text) = none := by
      rw [Position.before?, String.toList_ofList, hbefore, Option.map_none]
    have hnone' : p.before? (String.ofList (withReturns text)) = none := by
      rw [Position.before?, String.toList_ofList, p.beforeChars?_withReturns h, hbefore,
        Option.map_none]
    rw [itemsAt, itemsAt, hnone, hnone']
    rfl
  | some before =>
    have hbefore' := (p.beforeChars?_withReturns h).trans hbefore
    obtain ⟨offset, hoffset⟩ : ∃ offset, p.offsetChars? text = some offset :=
      ⟨_, by rw [Position.offsetChars?, hbefore, Option.map_some]⟩
    obtain ⟨offset', hoffset'⟩ : ∃ offset', p.offsetChars? (withReturns text) = some offset' :=
      ⟨_, by rw [Position.offsetChars?, hbefore', Option.map_some]⟩
    have hfeeds : lineFeedsBefore (withReturns text) offset' = lineFeedsBefore text offset :=
      lineFeedsBefore_withReturns h (by rwa [Position.offset?, String.toList_ofList])
        (by rwa [Position.offset?, String.toList_ofList])
    have hexisting :
        s.provider.existing
            ⟨String.ofList (withReturns text), offset', some s.registry, s.catalog⟩ =
          s.provider.existing ⟨String.ofList text, offset, some s.registry, s.catalog⟩ := by
      simp only [Provider.existing, provider, Provider.ofConfig, Request.lineNumber,
        String.toList_ofList, hfeeds, Declaration.scan_withReturns h]
    have hsuggestions :
        s.provider.suggestions
            ⟨String.ofList (withReturns text), offset', some s.registry, s.catalog⟩ =
          s.provider.suggestions ⟨String.ofList text, offset, some s.registry, s.catalog⟩ :=
      suggestions_congr rfl rfl hexisting
    rw [s.itemsAt_of_readings hbefore hoffset, s.itemsAt_of_readings hbefore' hoffset',
      hsuggestions]

/-- **Line endings make no difference.**  A text without carriage returns is open as a document, and
the same text with `\r\n` in place of `\n` is open as a document of a server with the same catalog,
settings and metadata.  A request at the same position gets the same answer on either, and a search
that leaves out the same line finds the same packages. -/
theorem complete_withReturns (bundled : Catalog) (config : Config) (registry : Registry)
    {documents documents' : Dictionary String} {document document' : String} {text : List Char}
    (hreturn : '\r' ∉ text) (hopen : documents.get? document = some (String.ofList text))
    (hopen' : documents'.get? document' = some (String.ofList (withReturns text)))
    (p : Position) :
    (⟨bundled, config, registry, documents'⟩ : Session).complete document' p =
        (⟨bundled, config, registry, documents⟩ : Session).complete document p ∧
      ∀ excluded, Declaration.scan (String.ofList (withReturns text)) excluded =
        Declaration.scan (String.ofList text) excluded := by
  refine ⟨?_, Declaration.scan_withReturns hreturn⟩
  rw [complete, complete, hopen, hopen', Option.bind_some, Option.bind_some]
  exact itemsAt_withReturns _ p hreturn

/-- Far behind `\us` on the second of three lines, the same items are offered with either line
ending, and the package of the first line is not. -/
theorem complete_withReturns_us :
    let text := "\\usepackage\x7bamsmath\x7d\n\\us\nHello".toList
    let bundled : Catalog := .ofList ["amsmath", "tikz"]
    let documents : Dictionary String := Dictionary.put ∅ "main.tex" (String.ofList text)
    let documents' : Dictionary String :=
      Dictionary.put ∅ "main.tex" (String.ofList (withReturns text))
    let answer := (⟨bundled, {}, {}, documents'⟩ : Session).complete "main.tex" ⟨1, 40⟩
    '\r' ∉ text ∧ documents.get? "main.tex" = some (String.ofList text) ∧
      documents'.get? "main.tex" = some (String.ofList (withReturns text)) ∧
      answer = (⟨bundled, {}, {}, documents⟩ : Session).complete "main.tex" ⟨1, 40⟩ ∧
      (answer.map (·.map (·.label))) = some ["\\usepackage\x7btikz\x7d", "\\usepackage\x7b\x7d"] ∧
      Declaration.scan (String.ofList (withReturns text)) 2 = ["amsmath"] := by
  intro text bundled documents documents' answer
  have hreturn : '\r' ∉ text := by decide
  have hopen : documents.get? "main.tex" = some (String.ofList text) :=
    Dictionary.get?_put_self ∅ _ _
  have hopen' : documents'.get? "main.tex" = some (String.ofList (withReturns text)) :=
    Dictionary.get?_put_self ∅ _ _
  obtain ⟨hanswer, hscan⟩ :=
    complete_withReturns bundled {} {} hreturn hopen hopen' ⟨1, 40⟩
  refine ⟨hreturn, hopen, hopen', hanswer, ?_, ?_⟩
  · decide +kernel
  · decide +kernel

end Session

end TexCompletion
