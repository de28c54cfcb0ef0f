import TexCompletion.Proofs.Completion.CursorContent
import TexCompletion.Proofs.Position.Point
import TexCompletion.Proofs.Trigger.Word
import TexCompletion.Session

/-!
# Typing on

An editor that got a complete list filters it by itself while letters are typed, so the list has to
stay right.  The main statement, `complete_insert_letters`, says that it does: with letters put in
at the cursor and the cursor moved behind them, the answer is the same but for the end of the range
that an item replaces.

Three facts come together.

* **The trigger does not move** (`find?_append_letters`): letters belong to the word under the
  cursor, whichever kind it is, and the word starts where it started.
* **Only the line of the cursor changes** (`editorLines_insert`), and it changes where the cursor
  is.
* **The scan does not see it** (`existing_insert`): what is typed stands on the line that is left
  out.
-/

namespace TexCompletion

open Text

/-! ## The trigger -/

/-- Letters in front of the cursor belong to the word that is being completed. -/
theorem Trigger.find?_append_letters {before letters : List Char}
    (h : ∀ c ∈ letters, c.isAlpha = true) :
    Trigger.find? (String.ofList (before ++ letters)) = Trigger.find? (String.ofList before) := by
  have hname : ∀ c ∈ letters, isNameChar c = true := fun c hc => by
    simp [isNameChar, Char.isAlphanum, h c hc]
  have hcommand : ∀ c ∈ letters, isCommandChar c = true := fun c hc => by
    simp [isCommandChar, h c hc]
  simp only [Trigger.find?, Trigger.packageName?, Trigger.command?, String.toList_ofList,
    dropEndWhile_append_of_all hname, dropEndWhile_append_of_all hcommand]

/-! ## The text -/

theorem units_of_isAlpha {c : Char} (h : c.isAlpha = true) : units c = 1 := by
  have := toNat_of_isAlpha h
  exact if_pos (by omega)

/-- Letters take one column each. -/
theorem units16_of_isAlpha {letters : List Char} (h : ∀ c ∈ letters, c.isAlpha = true) :
    units16 letters = letters.length := by
  induction letters with
  | nil => rfl
  | cons c cs ih =>
    rw [units16_cons, units_of_isAlpha (h c List.mem_cons_self),
      ih fun d hd => h d (List.mem_cons_of_mem _ hd), List.length_cons, Nat.add_comm]

/-- No letter breaks a line. -/
theorem isLineBreak_of_isAlpha {c : Char} (h : c.isAlpha = true) : isLineBreak c = false := by
  have := toNat_of_isAlpha h
  simp only [isLineBreak, Bool.or_eq_false_iff, Bool.and_eq_false_iff, decide_eq_false_iff_not,
    beq_eq_false_iff_ne]
  omega

/-- What is typed at a point goes into the line of the point, if it has no breaks. -/
theorem editorLines_insert {left right before after typed : List Char}
    {init rest : List (List Char)}
    (hlines : editorLines (left ++ right) = init ++ (before ++ after) :: rest)
    (hleft : left = init.flatten ++ before) (hbefore : ∀ c ∈ before, isLineBreak c = false)
    (htyped : ∀ c ∈ typed, isLineBreak c = false) :
    editorLines (left ++ typed ++ right) = init ++ (before ++ typed ++ after) :: rest := by
  have hright : right = after ++ rest.flatten := by
    have htext := flatten_editorLines (left ++ right)
    rw [hlines, hleft] at htext
    simpa using htext.symm
  obtain ⟨hl, hr⟩ := editorLines_cut hlines hbefore
  rw [← hleft] at hl
  rw [← hright] at hr
  cases typed with
  | nil => simpa using hlines
  | cons t ts =>
    -- a cut beside what is typed is no cut through `\r\n`
    have hfirst : ¬(left.getLast? = some '\r' ∧ (t :: ts).head? = some '\n') := by
      rintro ⟨-, h⟩
      obtain rfl : t = '\n' := by simpa using h
      exact absurd (htyped _ List.mem_cons_self) (by decide)
    have hsecond : ¬((left ++ t :: ts).getLast? = some '\r' ∧ right.head? = some '\n') := by
      rintro ⟨h, -⟩
      rw [List.getLast?_append_of_ne_nil _ (by simp)] at h
      exact absurd (htyped _ (List.mem_of_getLast? h)) (by decide)
    rw [editorLines_append hsecond, editorLines_append hfirst, hl, hr,
      editorLines_of_not_isLineBreak htyped, glue_concat_cons, glue_concat_cons]

/-! ## The scan -/

/-- What is typed on the line of the cursor adds nothing to the packages that the document is known
to declare. -/
theorem existing_insert (config : Config) (metadata : Option Registry) (catalog : Catalog)
    (left right : List Char) {typed : List Char} (h : '\n' ∉ typed) :
    (Provider.ofConfig config).existing
        ⟨String.ofList (left ++ typed ++ right), bytes8 (left ++ typed), metadata, catalog⟩ =
      (Provider.ofConfig config).existing
        ⟨String.ofList (left ++ right), bytes8 left, metadata, catalog⟩ := by
  have hbehind : CursorWithin left typed right (bytes8 (left ++ typed)) := by
    rw [bytes8_append]
    exact ⟨Nat.le_add_right _ _, .inl (Nat.le_refl _)⟩
  have hbefore : CursorWithin left [] right (bytes8 left) :=
    ⟨Nat.le_refl _, .inl (Nat.le_refl _)⟩
  have hempty := Declaration.scanChars_cursorWithin List.not_mem_nil hbefore
  rw [List.append_nil] at hempty
  simp only [Provider.existing, Provider.ofConfig, Declaration.scan, Request.lineNumber,
    String.toList_ofList, Declaration.scanChars_cursorWithin h hbehind, hempty]

/-! ## The answer -/

/-- The position `k` columns to the right. -/
def Position.moveRight (p : Position) (k : Nat) : Position :=
  { p with character := p.character + k }

/-- The item, replacing `k` columns more at the end of its range. -/
def Completion.Item.stretch (k : Nat) (i : Completion.Item) : Completion.Item :=
  { i with range := { i.range with stop := i.range.stop.moveRight k } }

namespace Session

/-- The items at a position whose two readings are known. -/
theorem itemsAt_of_readings (s : Session) {text before : List Char} {offset : Nat} {p : Position}
    (hbefore : p.beforeChars? text = some before) (hoffset : p.offsetChars? text = some offset) :
    s.itemsAt (String.ofList text) p =
      (Trigger.find? (String.ofList before)).map fun trigger =>
        ((s.provider.suggestions ⟨String.ofList text, offset, some s.registry, s.catalog⟩).onChannel
          trigger.channel).map (.ofSuggestion ⟨⟨p.line, trigger.start⟩, p⟩) := by
  simp only [itemsAt, Position.before?, Position.offset?, String.toList_ofList, hbefore, hoffset,
    Option.map_some, Option.bind_eq_bind, Option.bind_some]
  cases Trigger.find? (String.ofList before) <;> rfl

/-- **Typing letters keeps the answer.**  In any state, letters are put in at a point of an open
document, and the cursor moves from the point to behind them.  Then completion is due exactly if it
was due before, and the items are the same, in the same order and with the same beginning of their
ranges; only the end moves, by what was typed. -/
theorem complete_insert_letters {s : Session} {document : String} {p : Position}
    {left right letters : List Char}
    (hopen : s.documents.get? document = some (String.ofList (left ++ right)))
    (hpoint : p.PointsBetween left right) (hletters : ∀ c ∈ letters, c.isAlpha = true) :
    let typed := (s.step (.changed document [String.ofList (left ++ letters ++ right)])).1
    typed.complete document (p.moveRight letters.length) =
      (s.complete document p).map (·.map (.stretch letters.length)) := by
  intro typed
  obtain ⟨init, before, after, rest, hlines, hleft, hbefore, hline, hcharacter⟩ := hpoint
  have hbreak : ∀ c ∈ letters, isLineBreak c = false := fun c hc =>
    isLineBreak_of_isAlpha (hletters c hc)
  have hnewline : '\n' ∉ letters := fun h => absurd (hbreak _ h) (by decide)
  have hlines' := editorLines_insert hlines hleft hbefore hbreak
  have hbefore' : ∀ c ∈ before ++ letters, isLineBreak c = false := fun c hc =>
    (List.mem_append.mp hc).elim (hbefore c) (hbreak c)
  have hcharacter' : (p.moveRight letters.length).character = units16 (before ++ letters) := by
    rw [units16_append, units16_of_isAlpha hletters, ← hcharacter]
    rfl
  have hleft' : init.flatten ++ (before ++ letters) = left ++ letters := by
    rw [hleft, List.append_assoc]
  have htext : typed.documents.get? document =
      some (String.ofList (left ++ letters ++ right)) := by
    show (s.documents.put document (String.ofList (left ++ letters ++ right))).get? document = _
    rw [Dictionary.get?_put, if_pos rfl]
  have hitems := s.itemsAt_of_readings
    (Position.beforeChars?_of_lines hlines hbefore hline hcharacter)
    (Position.offsetChars?_of_lines hlines hbefore hline hcharacter)
  have hitems' := typed.itemsAt_of_readings
    (Position.beforeChars?_of_lines hlines' hbefore' (p := p.moveRight letters.length) hline
      hcharacter')
    (Position.offsetChars?_of_lines hlines' hbefore' hline hcharacter')
  have hsuggestions : typed.provider.suggestions
        ⟨String.ofList (left ++ letters ++ right), bytes8 (left ++ letters),
          some typed.registry, typed.catalog⟩ =
      s.provider.suggestions
        ⟨String.ofList (left ++ right), bytes8 left, some s.registry, s.catalog⟩ :=
    suggestions_congr rfl rfl (existing_insert s.config _ _ left right hnewline)
  rw [complete, htext, Option.bind_some, hitems', complete, hopen, Option.bind_some, hitems,
    Trigger.find?_append_letters hletters, hleft', hsuggestions, ← hleft, Option.map_map]
  cases Trigger.find? (String.ofList before) with
  | none => rfl
  | some trigger =>
    simp only [Option.map_some, Function.comp_apply, List.map_map]
    rfl

/-- While `ams` is typed behind `\\usepackage{` on the second line, the list stays. -/
theorem complete_insert_ams :
    let left := ['\n', '\\', 'u', 's', 'e', 'p', 'a', 'c', 'k', 'a', 'g', 'e', '\x7b']
    let right := ['\x7d']
    let letters := ['a', 'm', 's']
    let p : Position := ⟨1, 12⟩
    let s : Session :=
      { bundled := .ofList ["amsmath", "graphicx"]
        documents := Dictionary.put ∅ "main.tex" (String.ofList (left ++ right)) }
    s.documents.get? "main.tex" = some (String.ofList (left ++ right)) ∧
      p.PointsBetween left right ∧ (∀ c ∈ letters, c.isAlpha = true) ∧
        (s.step (.changed "main.tex" [String.ofList (left ++ letters ++ right)])).1.complete
            "main.tex" (p.moveRight letters.length) =
          (s.complete "main.tex" p).map (·.map (.stretch letters.length)) := by
  intro left right letters p s
  have hopen : s.documents.get? "main.tex" = some (String.ofList (left ++ right)) :=
    (Dictionary.get?_put ∅ "main.tex" _ "main.tex").trans (if_pos rfl)
  have hbefore : ∀ c ∈ left.tail, isLineBreak c = false := by simp [left, isLineBreak]
  have hpoint : p.PointsBetween left right :=
    ⟨[['\n']], left.tail, right, [], by decide, by decide, hbefore, by decide, by decide⟩
  have hletters : ∀ c ∈ letters, c.isAlpha = true := List.all_eq_true.mp (by decide)
  exact ⟨hopen, hpoint, hletters, complete_insert_letters hopen hpoint hletters⟩

end Session

end TexCompletion
