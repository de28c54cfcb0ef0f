import TexCompletion.Proofs.Completion.CursorLine
import TexCompletion.Proofs.Completion.Declared
import TexCompletion.Proofs.Position.Point
import TexCompletion.Proofs.Session.History
import TexCompletion.Proofs.Text.Feeds

/-!
# The line that is left out

A document is searched for declarations on all lines but one, and that line should be the one the
cursor is on.  Two numbers name it: the position gives the number of a line of the document, the
request counts line feeds in front of the offset.

`lineNumber_offset?` says what the request counts.  It is the number of the position if the lines in
front of the cursor end in line feeds, so the two agree on all of a text exactly if the text breaks
at line feeds only (`lineNumber_iff`).  In such a text the search leaves out the line of the cursor,
and a package that is declared on any other line is not offered (`not_offers_of_declared`).
`line_left_out_iff` puts the three together.
-/

namespace TexCompletion

open Text

/-! ## The number of the line -/

/-- A request counts the line feeds on the lines in front of the one with the number. -/
theorem lineFeedsBefore_offset? {p : Position} {text : String} {offset : Nat}
    (h : p.offset? text = some offset) :
    lineFeedsBefore text.toList offset =
      ((editorLines text.toList).take p.line).flatten.count '\n' := by
  obtain ⟨init, line, rest, hlines, hnumber, rfl⟩ := Position.offset?_eq_some_iff.mp h
  obtain ⟨more, hline⟩ := columnText_isPrefix line p.character
  have htext : text.toList =
      (init.flatten ++ columnText line p.character) ++ (more ++ rest.flatten) := by
    rw [← flatten_editorLines text.toList, hlines, List.flatten_append, List.flatten_cons]
    nth_rewrite 1 [← hline]
    simp only [List.append_assoc]
  have hcolumn : (columnText line p.character).count '\n' = 0 :=
    List.count_eq_zero_of_not_mem fun hmem =>
      not_mem_lineContent (.inl rfl) line
        ((columnText_isPrefix_lineContent line p.character).subset hmem)
  rw [hlines, hnumber, List.take_left, htext, ← bytes8_append, lineFeedsBefore_append,
    List.count_append, hcolumn, Nat.add_zero]

/-- **The request numbers the line of the position**, at every position of a text, exactly if the text
breaks at line feeds only. -/
theorem lineNumber_iff (text : String) :
    (∀ (p : Position) (offset : Nat), p.offset? text = some offset →
      ∀ metadata catalog, (⟨text, offset, metadata, catalog⟩ : Request).lineNumber = p.line + 1) ↔
      OnlyFeeds text.toList := by
  rw [← count_take_editorLines_iff]
  constructor
  · intro h n hn
    have hsome : (Position.offset? ⟨n, 0⟩ text).isSome = true := by
      rw [← Option.ne_none_iff_isSome, ne_eq, Position.offset?_eq_none_iff]
      exact Nat.not_le_of_lt hn
    obtain ⟨offset, hoffset⟩ := Option.isSome_iff_exists.mp hsome
    have hnumber := h ⟨n, 0⟩ offset hoffset none .bundled
    rw [Request.lineNumber, lineFeedsBefore_offset? hoffset] at hnumber
    exact Nat.succ.inj hnumber
  · intro h p offset hoffset metadata catalog
    have hline : p.line < (editorLines text.toList).length := by
      by_contra hle
      have hnone := Position.offset?_eq_none_iff.mpr (Nat.le_of_not_lt hle)
      rw [hoffset] at hnone
      exact absurd hnone (by simp)
    rw [Request.lineNumber, lineFeedsBefore_offset? hoffset, h p.line hline]

/-! ## What is offered -/

/-- What is inserted to load a package. -/
def Channel.loading (name : String) : Channel → String
  | .command => declarationOf name
  | .packageParameter => name

/-- The text for a package is inserted on a channel exactly if the package is on offer. -/
theorem inserts_loading_iff (p : Provider) (r : Request) {registry : Registry}
    (h : r.metadata = some registry) (name : String) (channel : Channel) :
    (∃ s ∈ (p.suggestions r).onChannel channel, s.insertion = .text (channel.loading name)) ↔
      name ∈ p.offered r registry := by
  cases channel with
  | command => exact inserts_declaration_iff p r h name
  | packageParameter => exact inserts_name_iff p r h name

/-- An item is plain text exactly if its suggestion inserts that text. -/
theorem ofSuggestion_plainText_iff {range : Range} {s : Suggestion} {text : String} :
    (Completion.Item.ofSuggestion range s).format = .plainText ∧
        (Completion.Item.ofSuggestion range s).newText = text ↔
      s.insertion = .text text := by
  rcases s with ⟨channel, tag, label, insertion, boost⟩
  cases insertion <;> simp [Completion.Item.ofSuggestion]

namespace Session

/-- A package is offered at a position of a document: some item of the answer inserts, as plain text,
what the channel of the position has for the package. -/
def Offers (s : Session) (document : String) (p : Position) (name : String) : Prop :=
  ∃ text before trigger items,
    s.documents.get? document = some text ∧ p.before? text = some before ∧
      Trigger.find? before = some trigger ∧ s.complete document p = some items ∧
        ∃ item ∈ items, item.format = .plainText ∧ item.newText = trigger.channel.loading name

/-- The packages that are offered are those the provider has on offer. -/
theorem offers_iff {s : Session} {document name : String} {p : Position} :
    s.Offers document p name ↔
      ∃ text before offset trigger,
        s.documents.get? document = some text ∧ p.before? text = some before ∧
          p.offset? text = some offset ∧ Trigger.find? before = some trigger ∧
            name ∈ s.provider.offered ⟨text, offset, some s.registry, s.catalog⟩ s.registry := by
  constructor
  · rintro ⟨text, before, trigger, items, hdoc, hbefore, htrigger, hitems, item, hitem, hinserts⟩
    obtain ⟨text', before', offset, trigger', hdoc', hbefore', hoffset, htrigger', rfl⟩ :=
      (complete_eq_some_iff s document p items).mp hitems
    obtain rfl : text' = text := Option.some.inj (hdoc'.symm.trans hdoc)
    obtain rfl : before' = before := Option.some.inj (hbefore'.symm.trans hbefore)
    obtain rfl : trigger' = trigger := Option.some.inj (htrigger'.symm.trans htrigger)
    obtain ⟨suggestion, hsuggestion, rfl⟩ := List.mem_map.mp hitem
    refine ⟨text', before', offset, trigger', hdoc, hbefore, hoffset, htrigger, ?_⟩
    exact (inserts_loading_iff _ _ rfl name trigger'.channel).mp
      ⟨suggestion, hsuggestion, ofSuggestion_plainText_iff.mp hinserts⟩
  · rintro ⟨text, before, offset, trigger, hdoc, hbefore, hoffset, htrigger, hname⟩
    obtain ⟨suggestion, hsuggestion, hinserts⟩ :=
      (inserts_loading_iff _ _ rfl name trigger.channel).mpr hname
    refine ⟨text, before, trigger, _, hdoc, hbefore, htrigger,
      (complete_eq_some_iff s document p _).mpr
        ⟨text, before, offset, trigger, hdoc, hbefore, hoffset, htrigger, rfl⟩,
      _, List.mem_map_of_mem hsuggestion, ofSuggestion_plainText_iff.mpr hinserts⟩

/-- In a text that breaks at line feeds only, a package that is declared on another line than that of
the cursor is not offered. -/
theorem not_offers_of_declared {s : Session} {document text name : String} {p : Position} {i : Nat}
    {line : List Char} (hfeeds : OnlyFeeds text.toList)
    (hdoc : s.documents.get? document = some text) (hscan : s.config.scanDocument = true)
    (hline : (editorLines text.toList)[i]? = some line) (hother : i ≠ p.line)
    (hdeclared : Declaration.DeclaresOnly (lineContent line) name.toList) :
    ¬ s.Offers document p name := by
  intro hoffers
  obtain ⟨text', before, offset, trigger, hdoc', -, hoffset, -, hname⟩ := offers_iff.mp hoffers
  obtain rfl : text' = text := Option.some.inj (hdoc'.symm.trans hdoc)
  have hnumber := (lineNumber_iff text').mpr hfeeds p offset hoffset (some s.registry) s.catalog
  -- the scan counts the same lines, and this one is not empty
  have hcontent : (lines text'.toList)[i]? = some (lineContent line) := by
    refine getElem?_lines hfeeds hline fun hnil => ?_
    obtain ⟨-, before, after, heq, -⟩ := hdeclared
    rw [hnil] at heq
    exact absurd heq (by simp)
  have hscanned : name ∈ Declaration.scan text' (p.line + 1) :=
    mem_scan.mpr (Declaration.mem_scanChars.mpr
      ⟨i, _, hcontent, by omega, Declaration.mem_namesIn_of_declaresOnly hdeclared⟩)
  have hexisting : s.provider.existing ⟨text', offset, some s.registry, s.catalog⟩ =
      Declaration.scan text' (p.line + 1) := by
    rw [Provider.existing, hnumber]
    exact if_pos hscan
  rw [Provider.offered, hexisting] at hname
  simp [hscanned] at hname

/-- **The line that is left out is the line of the cursor**, exactly in a text that breaks at line
feeds only.  There the request has the number of the position, the scan numbers the lines that
positions count, but for an empty one at the end, and no package is offered that another line
declares. -/
theorem line_left_out_iff (text : String) :
    ((∀ (p : Position) (offset : Nat), p.offset? text = some offset →
        ∀ metadata catalog,
          (⟨text, offset, metadata, catalog⟩ : Request).lineNumber = p.line + 1) ∧
      (∃ last, (last = [] ∨ last = [[]]) ∧
        (editorLines text.toList).map lineContent = lines text.toList ++ last) ∧
      ∀ (s : Session) (document : String) (p : Position) (i : Nat) (line : List Char)
        (name : String), s.documents.get? document = some text → s.config.scanDocument = true →
        (editorLines text.toList)[i]? = some line → i ≠ p.line →
        Declaration.DeclaresOnly (lineContent line) name.toList →
        ¬ s.Offers document p name) ↔
      OnlyFeeds text.toList := by
  constructor
  · rintro ⟨hnumber, -, -⟩
    exact (lineNumber_iff text).mp hnumber
  · intro hfeeds
    refine ⟨(lineNumber_iff text).mpr hfeeds, lineContent_editorLines hfeeds, ?_⟩
    intro s document p i line name hdoc hscan hline hother hdeclared
    exact not_offers_of_declared hfeeds hdoc hscan hline hother hdeclared

/-- With a carriage return alone between two lines, the request numbers both of them one.  The package
that the first line declares is offered on the second. -/
theorem line_left_out_lone_return :
    let text := "\\usepackage\x7bamsmath\x7d\r\\usepackage\x7b"
    let line := "\\usepackage\x7bamsmath\x7d\r".toList
    let p : Position := ⟨1, 12⟩
    let s : Session :=
      { bundled := .ofList ["amsmath"], documents := Dictionary.put ∅ "main.tex" text }
    p.offset? text = some 33 ∧
      (⟨text, 33, some s.registry, s.catalog⟩ : Request).lineNumber ≠ p.line + 1 ∧
      s.documents.get? "main.tex" = some text ∧ s.config.scanDocument = true ∧
      (editorLines text.toList)[0]? = some line ∧ 0 ≠ p.line ∧
      Declaration.DeclaresOnly (lineContent line) "amsmath".toList ∧
      s.Offers "main.tex" p "amsmath" := by
  intro text line p s
  have hdoc : s.documents.get? "main.tex" = some text := Dictionary.get?_put_self ∅ _ _
  have hoffset : p.offset? text = some 33 := by decide
  have hbefore : p.before? text = some "\\usepackage\x7b" := by decide
  have htrigger : Trigger.find? "\\usepackage\x7b" = some ⟨.packageParameter, 12⟩ := by decide
  have hdeclared : Declaration.DeclaresOnly (lineContent line) "amsmath".toList := by
    refine ⟨by decide, [], [], by decide, fun other rest heq => ?_⟩
    cases other with
    | nil => rfl
    | cons c other =>
      -- the line has one backslash, and it is the first character
      have hbackslash : '\\' ∉ (lineContent line).tail := by decide
      have hkeyword : '\\' ∈ Declaration.keyword := by decide
      rw [heq, List.cons_append, List.cons_append, List.tail_cons] at hbackslash
      exact absurd (List.mem_append_left _ (List.mem_append_right _ hkeyword)) hbackslash
  have hknown : "amsmath" ∈ sources s.bundled s.config s.registry := by decide
  let r : Request := ⟨text, 33, some s.registry, s.catalog⟩
  have hnumber : r.lineNumber = 1 := by decide
  have hscan : "amsmath" ∉ Declaration.scan text r.lineNumber := by
    rw [hnumber]
    decide
  have hoffered : "amsmath" ∈ s.provider.offered r s.registry :=
    (mem_offered_ofConfig rfl hknown text 33).mpr hscan
  have hdiffer : r.lineNumber ≠ p.line + 1 := by
    rw [hnumber]
    decide
  exact ⟨hoffset, hdiffer, hdoc, rfl, by decide, by decide, hdeclared,
    offers_iff.mpr ⟨text, _, 33, _, hdoc, hbefore, hoffset, htrigger, hoffered⟩⟩

end Session

end TexCompletion
