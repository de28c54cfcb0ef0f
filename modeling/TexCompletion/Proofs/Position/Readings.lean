import TexCompletion.Proofs.Position.Point

/-!
# The two readings of a position

A position is read twice, as a byte offset in the whole text and as the text of its line in front of
the cursor.  The two speak of the same place, and of no place for the same positions.

The offset can be found without the text in front of the cursor, by counting characters from the
beginning of the document (`Position.countedOffset?`).  That takes three steps, each with bounds of
its own: the characters in front of the line, where the end of the text counts as the start of one
line more; those on the line up to the column; the bytes of all these together.
`countedOffset?_eq` says that no step fails where the line is there, and that the outcome is the
offset.

Offsets respect the order of positions (`offset?_le_offset?`): on one line by the columns, and a line
further on starts behind whatever is on this one.
-/

namespace TexCompletion

open Text

/-! ## Counting characters -/

namespace Text

/-- How many characters are in front of a line.  The end of the text is the start of one line more
than there are. -/
def charsBefore? (cs : List Char) (i : Nat) : Option Nat :=
  if i ≤ (editorLines cs).length then some ((editorLines cs).take i).flatten.length else none

/-- How many bytes the first characters of a text take, if there are that many. -/
def bytesOfFirst? (cs : List Char) (n : Nat) : Option Nat :=
  if n ≤ cs.length then some (bytes8 (cs.take n)) else none

/-- How many characters of a line are in front of column `k`, with `column` characters of `width`
units counted already. -/
def countColumn (k : Nat) : List Char → Nat → Nat → Nat
  | [], _, column => column
  | c :: cs, width, column =>
    if k ≤ width ∨ c = '\n' ∨ c = '\r' then column
    else countColumn k cs (width + units c) (column + 1)

theorem countColumn_eq (k : Nat) (line : List Char) (width column : Nat) :
    countColumn k line width column = column + (columnText line (k - width)).length := by
  induction line generalizing width column with
  | nil => rfl
  | cons c cs ih =>
    rw [countColumn, columnText]
    have hreached : k - width = 0 ↔ k ≤ width := Nat.sub_eq_zero_iff_le
    simp only [hreached]
    split
    · rfl
    · rw [ih, List.length_cons, Nat.sub_add_eq]
      omega

theorem bytesOfFirst?_length {cs front : List Char} (h : front <+: cs) :
    bytesOfFirst? cs front.length = some (bytes8 front) := by
  rw [bytesOfFirst?, if_pos h.length_le, ← List.prefix_iff_eq_take.mp h]

end Text

namespace Position

/-- The byte offset of a position, found by counting characters. -/
def countedOffset? (p : Position) (text : List Char) : Option Nat := do
  let front ← charsBefore? text p.line
  let line ← (editorLines text)[p.line]?
  bytesOfFirst? text (front + countColumn p.character line 0 0)

/-- **Counting finds the offset**, and fails only where there is no such line. -/
theorem countedOffset?_eq (p : Position) (text : String) :
    p.countedOffset? text.toList = p.offset? text := by
  cases hline : (editorLines text.toList)[p.line]? with
  | none =>
    rw [offset?_eq_none_iff.mpr (List.getElem?_eq_none_iff.mp hline), countedOffset?, hline]
    cases charsBefore? text.toList p.line <;> rfl
  | some line =>
    obtain ⟨init, rest, hlines, hnumber, hbytes⟩ := exists_lines_around hline
    have hfront : charsBefore? text.toList p.line = some init.flatten.length := by
      rw [charsBefore?, hlines, ← hnumber, List.take_left, if_pos]
      rw [List.length_append]
      exact Nat.le_add_right _ _
    -- the characters counted are the lines in front and the line up to the column
    have hbeginning : init.flatten ++ columnText line p.character <+: text.toList := by
      have htext := flatten_editorLines text.toList
      rw [hlines, List.flatten_append, List.flatten_cons] at htext
      rw [← htext]
      exact (List.prefix_append_right_inj _).mpr
        ((columnText_isPrefix _ _).trans (List.prefix_append _ _))
    rw [(readings_of_line hline).1, countedOffset?, hfront, hline, hbytes, ← bytes8_append,
      ← bytesOfFirst?_length hbeginning, List.length_append]
    simp only [Option.bind_eq_bind, Option.bind_some, countColumn_eq, Nat.zero_add, Nat.sub_zero]

/-! ## One place -/

/-- The text in front of the cursor is what is behind the start of its line, up to the offset. -/
theorem ends_with_before {p : Position} {text : String} {offset : Nat} {before : String}
    (hoffset : p.offset? text = some offset) (hbefore : p.before? text = some before) :
    offset = lineStart text.toList p.line + bytes8 before.toList ∧
      ∃ left right, text.toList = left ++ right ∧ offset = bytes8 left ∧ before.toList <:+ left := by
  obtain ⟨line, hline, rfl⟩ := exists_line_of_offset? hoffset
  obtain rfl := Option.some.inj (hbefore.symm.trans (readings_of_line hline).2)
  obtain ⟨init, rest, hlines, -, hbytes⟩ := exists_lines_around hline
  obtain ⟨behind, hbehind⟩ := columnText_isPrefix line p.character
  rw [String.toList_ofList]
  refine ⟨rfl, init.flatten ++ columnText line p.character, behind ++ rest.flatten, ?_, ?_,
    List.suffix_append _ _⟩
  · rw [← flatten_editorLines text.toList, hlines, List.flatten_append, List.flatten_cons,
      List.append_assoc, ← List.append_assoc (columnText _ _), hbehind]
  · rw [hbytes, bytes8_append]

/-! ## Order -/

/-- Positions in the order in which their places come in a document. -/
instance : LE Position :=
  ⟨fun p q => p.line < q.line ∨ p.line = q.line ∧ p.character ≤ q.character⟩

theorem le_iff {p q : Position} :
    p ≤ q ↔ p.line < q.line ∨ p.line = q.line ∧ p.character ≤ q.character :=
  Iff.rfl

/-- A column further on takes more of the line, or the same. -/
theorem columnText_isPrefix_columnText (line : List Char) {k k' : Nat} (h : k ≤ k') :
    columnText line k <+: columnText line k' := by
  induction line generalizing k k' with
  | nil => exact List.prefix_rfl
  | cons c cs ih =>
    rw [columnText, columnText]
    by_cases hc : c = '\n' ∨ c = '\r'
    · rw [if_pos (.inr hc)]
      exact List.nil_prefix
    by_cases hk : k = 0
    · rw [if_pos (.inl hk)]
      exact List.nil_prefix
    · have hk' : k' ≠ 0 := by omega
      rw [if_neg (not_or.mpr ⟨hk, hc⟩), if_neg (not_or.mpr ⟨hk', hc⟩)]
      exact List.cons_prefix_cons.mpr ⟨rfl, ih (Nat.sub_le_sub_right h _)⟩

/-- An offset is not behind the start of the next line. -/
theorem offset?_le_lineStart {p : Position} {text : String} {offset : Nat}
    (h : p.offset? text = some offset) : offset ≤ lineStart text.toList (p.line + 1) := by
  obtain ⟨line, hline, rfl⟩ := exists_line_of_offset? h
  rw [lineStart_succ hline]
  exact Nat.add_le_add_left (bytes8_le_of_isPrefix (columnText_isPrefix _ _)) _

/-- **Offsets respect the order of positions.** -/
theorem offset?_le_offset? {p q : Position} {text : String} {a b : Nat} (h : p ≤ q)
    (ha : p.offset? text = some a) (hb : q.offset? text = some b) : a ≤ b := by
  rcases le_iff.mp h with hlt | ⟨heq, hle⟩
  · obtain ⟨line, -, rfl⟩ := exists_line_of_offset? hb
    calc
      a ≤ lineStart text.toList (p.line + 1) := offset?_le_lineStart ha
      _ ≤ lineStart text.toList q.line := lineStart_mono _ hlt
      _ ≤ lineStart text.toList q.line + bytes8 (columnText line q.character) :=
        Nat.le_add_right _ _
  · obtain ⟨line, hline, rfl⟩ := exists_line_of_offset? ha
    obtain ⟨line', hline', rfl⟩ := exists_line_of_offset? hb
    obtain rfl : line = line' := by
      rw [heq, hline'] at hline
      exact (Option.some.inj hline).symm
    rw [heq]
    exact Nat.add_le_add_left
      (bytes8_le_of_isPrefix (columnText_isPrefix_columnText line hle)) _

/-- **The readings of a position agree.**  The offset is what counting characters finds.  There is no
offset, and no text in front of the cursor, exactly if there is no such line.  Otherwise the offset is
between two characters of the text or at one of its ends, as many bytes behind the start of the line
as the text in front of the cursor takes, and that text is what comes last in front of the offset.
Positions in order have offsets in order. -/
theorem readings_agree (text : String) :
    (∀ p : Position,
      p.countedOffset? text.toList = p.offset? text ∧
      (p.offset? text = none ↔ (editorLines text.toList).length ≤ p.line) ∧
      (p.before? text = none ↔ (editorLines text.toList).length ≤ p.line) ∧
      ∀ offset before, p.offset? text = some offset → p.before? text = some before →
        offset = lineStart text.toList p.line + bytes8 before.toList ∧
        ∃ left right, text.toList = left ++ right ∧ offset = bytes8 left ∧
          before.toList <:+ left) ∧
    ∀ (p q : Position) (a b : Nat), p ≤ q →
      p.offset? text = some a → q.offset? text = some b → a ≤ b := by
  refine ⟨fun p => ⟨countedOffset?_eq p text, offset?_eq_none_iff, before?_eq_none_iff, ?_⟩, ?_⟩
  · intro offset before hoffset hbefore
    exact ends_with_before hoffset hbefore
  · intro p q a b hle ha hb
    exact offset?_le_offset? hle ha hb

end Position

end TexCompletion
