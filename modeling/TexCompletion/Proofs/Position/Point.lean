import TexCompletion.Position
import TexCompletion.Proofs.Text.LineSpan

/-!
# Positions and points of a text

A point of a text has a text before it and a text after it.  `Position.PointsBetween` says when a
position is the one of such a point: it names a line of the text, the point is on that line with no
break of the line before it, and the column is the length of the line up to the point.  At such a
position the two readings of a position give back what lies before the point, on the line
(`beforeChars?_of_lines`) and in the whole text (`offsetChars?_of_lines`).

Points can be named by their place in bytes as well, and the main statement, `readings_of_point`,
goes from there: a place on a line has one position, which leads back to it.
-/

namespace TexCompletion

open Text

/-- The walk along a line goes over the beginning that it is wide enough for, and the rest of the
column is walked from there. -/
theorem columnText_append_add {before : List Char} (after : List Char) (k : Nat)
    (h : ∀ c ∈ before, isLineBreak c = false) :
    columnText (before ++ after) (units16 before + k) = before ++ columnText after k := by
  induction before with
  | nil => rw [units16_nil, Nat.zero_add, List.nil_append, List.nil_append]
  | cons c cs ih =>
    have hgo : ¬(units16 (c :: cs) + k = 0 ∨ c = '\n' ∨ c = '\r') := by
      have hbreak := h c List.mem_cons_self
      have hunits := units_pos c
      rintro (hzero | rfl | rfl)
      · rw [units16_cons] at hzero
        omega
      · exact absurd hbreak (by decide)
      · exact absurd hbreak (by decide)
    have hrest : units16 (c :: cs) + k - units c = units16 cs + k := by
      rw [units16_cons]
      omega
    rw [List.cons_append, columnText, if_neg hgo, hrest,
      ih fun d hd => h d (List.mem_cons_of_mem _ hd), List.cons_append]

theorem columnText_zero (line : List Char) : columnText line 0 = [] := by
  cases line with
  | nil => rfl
  | cons c cs => rw [columnText, if_pos (.inl rfl)]

/-- The column in the middle of a character leads behind it. -/
theorem columnText_one {c : Char} (h : units c = 2) (cs : List Char) :
    columnText (c :: cs) 1 = [c] := by
  have hgo : ¬(1 = 0 ∨ c = '\n' ∨ c = '\r') := by
    rintro (hzero | rfl | rfl)
    · exact absurd hzero (by decide)
    · exact absurd h (by decide)
    · exact absurd h (by decide)
  rw [columnText, if_neg hgo, h, columnText_zero]

/-- The column of a point on a line leads to that point, if no break of the line comes first. -/
theorem columnText_append {before : List Char} (after : List Char)
    (h : ∀ c ∈ before, isLineBreak c = false) :
    columnText (before ++ after) (units16 before) = before := by
  have hzero := columnText_append_add after 0 h
  rwa [Nat.add_zero, columnText_zero, List.append_nil] at hzero

namespace Position

/-! ## The two readings of a position -/

theorem offset?_eq_none_iff {p : Position} {text : String} :
    p.offset? text = none ↔ (editorLines text.toList).length ≤ p.line := by
  simp [offset?, offsetChars?, beforeChars?]

/-- Both readings of a position on a line that is known. -/
theorem readings_of_line {p : Position} {text : String} {line : List Char}
    (h : (editorLines text.toList)[p.line]? = some line) :
    p.offset? text =
        some (lineStart text.toList p.line + bytes8 (columnText line p.character)) ∧
      p.before? text = some (String.ofList (columnText line p.character)) := by
  simp [offset?, offsetChars?, before?, beforeChars?, h, lineStart]

/-- A position with an offset is on a line, and the offset leads to its column there. -/
theorem exists_line_of_offset? {p : Position} {text : String} {offset : Nat}
    (h : p.offset? text = some offset) :
    ∃ line, (editorLines text.toList)[p.line]? = some line ∧
      offset = lineStart text.toList p.line + bytes8 (columnText line p.character) := by
  obtain ⟨before, hbefore, rfl⟩ := Option.map_eq_some_iff.mp h
  obtain ⟨line, hline, rfl⟩ := Option.map_eq_some_iff.mp hbefore
  exact ⟨line, hline, rfl⟩

/-- The offset leads to the column on the line with the number. -/
theorem offset?_eq_some_iff {p : Position} {text : String} {offset : Nat} :
    p.offset? text = some offset ↔
      ∃ init line rest,
        editorLines text.toList = init ++ line :: rest ∧ p.line = init.length ∧
          offset = bytes8 init.flatten + bytes8 (columnText line p.character) := by
  constructor
  · intro h
    obtain ⟨line, hline, rfl⟩ := exists_line_of_offset? h
    obtain ⟨init, rest, hlines, hnumber, hbytes⟩ := exists_lines_around hline
    exact ⟨init, line, rest, hlines, hnumber.symm, by rw [hbytes]⟩
  · rintro ⟨init, line, rest, hlines, hline, rfl⟩
    simp only [offset?, offsetChars?, beforeChars?, hlines, hline]
    simp

/-! ## Points -/

/-- The position is that of the point between two halves of a text.  The lines of the text are
`init`, the line `before ++ after` and `rest`; the point is between `before` and `after`. -/
def PointsBetween (p : Position) (left right : List Char) : Prop :=
  ∃ init before after rest,
    editorLines (left ++ right) = init ++ (before ++ after) :: rest ∧
      left = init.flatten ++ before ∧ (∀ c ∈ before, isLineBreak c = false) ∧
        p.line = init.length ∧ p.character = units16 before

variable {p : Position} {text before after : List Char} {init rest : List (List Char)}

/-- The line in front of the cursor is the line up to the point. -/
theorem beforeChars?_of_lines (hlines : editorLines text = init ++ (before ++ after) :: rest)
    (hbefore : ∀ c ∈ before, isLineBreak c = false) (hline : p.line = init.length)
    (hcharacter : p.character = units16 before) : p.beforeChars? text = some before := by
  rw [beforeChars?, hlines, hline, List.getElem?_append_right (Nat.le_refl _), Nat.sub_self,
    List.getElem?_cons_zero, Option.map_some, hcharacter, columnText_append after hbefore]

/-- The offset of the cursor is the length of the text up to the point. -/
theorem offsetChars?_of_lines (hlines : editorLines text = init ++ (before ++ after) :: rest)
    (hbefore : ∀ c ∈ before, isLineBreak c = false) (hline : p.line = init.length)
    (hcharacter : p.character = units16 before) :
    p.offsetChars? text = some (bytes8 (init.flatten ++ before)) := by
  rw [offsetChars?, beforeChars?_of_lines hlines hbefore hline hcharacter, hlines, hline,
    List.take_left, bytes8_append]
  rfl

/-! ## Points and places in bytes -/

variable {text : String} {left right line : List Char} {i : Nat}

/-- A place in bytes that is on a line, and not behind its break or inside it, is a point of the
text. -/
theorem exists_point_of_bytes (htext : text.toList = left ++ right)
    (hline : (editorLines text.toList)[i]? = some line)
    (hstart : lineStart text.toList i ≤ bytes8 left)
    (hend : bytes8 left ≤ lineStart text.toList i + bytes8 (unbroken line)) :
    ∃ init before after rest, editorLines text.toList = init ++ (before ++ after) :: rest ∧
      line = before ++ after ∧ init.length = i ∧ lineStart text.toList i = bytes8 init.flatten ∧
        left = init.flatten ++ before ∧ right = after ++ rest.flatten ∧
          ∀ c ∈ before, isLineBreak c = false := by
  obtain ⟨init, rest, hlines, hnumber, hbytes⟩ := exists_lines_around hline
  obtain ⟨ending, hending⟩ := unbroken_isPrefix line
  have hparts := flatten_editorLines text.toList
  rw [hlines, List.flatten_append, List.flatten_cons, ← hending] at hparts
  have hcontent : init.flatten ++ unbroken line <+: text.toList :=
    ⟨ending ++ rest.flatten, by rw [← hparts]; simp only [List.append_assoc]⟩
  rw [hbytes] at hstart hend
  -- the place is behind the lines in front, and in front of the break
  obtain ⟨before, rfl⟩ := isPrefix_of_bytes8_le ((List.prefix_append _ _).trans hcontent)
    ⟨right, htext.symm⟩ hstart
  rw [← bytes8_append] at hend
  have hle := isPrefix_of_bytes8_le ⟨right, htext.symm⟩ hcontent hend
  obtain ⟨more, hmore⟩ := (List.prefix_append_right_inj _).mp hle
  have hsplit : line = before ++ (more ++ ending) := by
    rw [← List.append_assoc, hmore, hending]
  have hbefore : ∀ c ∈ before, isLineBreak c = false := fun c hc =>
    isLineBreak_of_mem_unbroken (hmore ▸ List.mem_append_left more hc)
  refine ⟨init, before, more ++ ending, rest, hsplit ▸ hlines, hsplit, hnumber, hbytes, rfl, ?_,
    hbefore⟩
  rw [htext, ← hmore] at hparts
  simpa using hparts.symm

/-- A point has one position. -/
theorem PointsBetween.unique {p q : Position} {left right : List Char}
    (hp : p.PointsBetween left right) (hq : q.PointsBetween left right) : p = q := by
  obtain ⟨init, before, after, rest, hlines, hleft, hbefore, hline, hcharacter⟩ := hp
  obtain ⟨init', before', after', rest', hlines', hleft', hbefore', hline', hcharacter'⟩ := hq
  -- the last line of the first half is the beginning of the line of the point
  have hlast := (editorLines_cut hlines hbefore).1
  have hlast' := (editorLines_cut hlines' hbefore').1
  rw [← hleft] at hlast
  rw [← hleft', hlast] at hlast'
  obtain ⟨rfl, hsame⟩ := List.append_inj' hlast' rfl
  obtain rfl : before = before' := List.head_eq_of_cons_eq hsame
  cases p
  cases q
  simp only at hline hcharacter hline' hcharacter'
  rw [hline, hcharacter, hline', hcharacter']

/-- The text behind a point begins with what follows the point on its line, unless nothing follows. -/
theorem head?_of_lines {before after : List Char} {init rest : List (List Char)}
    (hlines : editorLines text.toList = init ++ (before ++ after) :: rest)
    (hbefore : ∀ c ∈ before, isLineBreak c = false) :
    (after ++ rest.flatten).head? = after.head? := by
  cases after with
  | cons c after => rfl
  | nil =>
    -- only the last line ends without a break
    obtain ⟨-, hright⟩ := editorLines_cut hlines hbefore
    cases rest with
    | nil => rfl
    | cons next rest =>
      obtain ⟨hempty, -⟩ := editorLines_of_cons (List.cons_ne_nil next rest) hright
      exact absurd hempty (by decide)

/-- **Positions and places in bytes are inverse on what stands on a line.**  A text is cut at a place
that is on a line, not behind the break of the line and not inside it.  The number of the line and the
width of what is in front of the place on it make a position, the only one that points there; it leads
back to the place and to what is in front of it.  If a character of two units follows, the column in
its middle leads behind it. -/
theorem readings_of_point (htext : text.toList = left ++ right)
    (hline : (editorLines text.toList)[i]? = some line)
    (hstart : lineStart text.toList i ≤ bytes8 left)
    (hend : bytes8 left ≤ lineStart text.toList i + bytes8 (unbroken line)) :
    ∃ before after, line = before ++ after ∧
      bytes8 left = lineStart text.toList i + bytes8 before ∧
        (∀ p : Position, p.PointsBetween left right ↔ p = ⟨i, units16 before⟩) ∧
          offset? ⟨i, units16 before⟩ text = some (bytes8 left) ∧
            before? ⟨i, units16 before⟩ text = some (String.ofList before) ∧
              ∀ c, right.head? = some c → units c = 2 →
                after.head? = some c ∧
                  offset? ⟨i, units16 before + 1⟩ text = some (bytes8 (left ++ [c])) ∧
                    before? ⟨i, units16 before + 1⟩ text = some (String.ofList (before ++ [c])) := by
  obtain ⟨init, before, after, rest, hlines, rfl, hnumber, hbytes, rfl, rfl, hbefore⟩ :=
    exists_point_of_bytes htext hline hstart hend
  have hpoint : PointsBetween ⟨i, units16 before⟩ (init.flatten ++ before)
      (after ++ rest.flatten) :=
    ⟨init, before, after, rest, htext ▸ hlines, rfl, hbefore, hnumber.symm, rfl⟩
  obtain ⟨hoffset, hread⟩ := readings_of_line (p := ⟨i, units16 before⟩) hline
  simp only [columnText_append after hbefore] at hoffset hread
  refine ⟨before, after, rfl, by rw [hbytes, bytes8_append],
    fun p => ⟨fun hp => hp.unique hpoint, ?_⟩, ?_, hread, fun c hc hunits => ?_⟩
  · rintro rfl
    exact hpoint
  · rw [hoffset, hbytes, bytes8_append]
  · rw [head?_of_lines hlines hbefore] at hc
    obtain ⟨after, rfl⟩ := List.head?_eq_some_iff.mp hc
    obtain ⟨hoffset', hread'⟩ := readings_of_line (p := ⟨i, units16 before + 1⟩) hline
    simp only [columnText_append_add _ 1 hbefore, columnText_one hunits] at hoffset' hread'
    refine ⟨rfl, ?_, hread'⟩
    rw [hoffset', hbytes, bytes8_append, bytes8_append, bytes8_append, Nat.add_assoc]

/-- On the second line, in front of the emoji: its two columns lead in front of it and behind it. -/
theorem readings_of_point_emoji :
    let text := "ab\r\né😀x\u2028"
    let left := ['a', 'b', '\r', '\n', 'é']
    let right := ['😀', 'x', '\u2028']
    let line := ['é', '😀', 'x', '\u2028']
    text.toList = left ++ right ∧ (editorLines text.toList)[1]? = some line ∧
      lineStart text.toList 1 ≤ bytes8 left ∧
        bytes8 left ≤ lineStart text.toList 1 + bytes8 (unbroken line) ∧
          (∀ p : Position, p.PointsBetween left right ↔ p = ⟨1, 1⟩) ∧
            offset? ⟨1, 1⟩ text = some 6 ∧ before? ⟨1, 1⟩ text = some "é" ∧
              offset? ⟨1, 2⟩ text = some 10 ∧ before? ⟨1, 2⟩ text = some "é😀" := by
  intro text left right line
  have htext : text.toList = left ++ right := by decide
  have hline : (editorLines text.toList)[1]? = some line := by decide
  have hstart : lineStart text.toList 1 ≤ bytes8 left := by decide
  have hend : bytes8 left ≤ lineStart text.toList 1 + bytes8 (unbroken line) := by decide
  obtain ⟨before, after, hsplit, hbytes, hpoints, hoffset, hread, htwo⟩ :=
    readings_of_point htext hline hstart hend
  have hbefore : before <+: line := ⟨after, hsplit.symm⟩
  have hfirst : ['é'] <+: line := List.prefix_append ['é'] ['😀', 'x', '\u2028']
  -- the line starts at four, so what is in front of the place takes two bytes
  have hwide : bytes8 before = bytes8 ['é'] := by
    have hleft : bytes8 left = 4 + bytes8 ['é'] := by decide
    have hstarts : lineStart text.toList 1 = 4 := by decide
    omega
  have hle := isPrefix_of_bytes8_le hbefore hfirst hwide.le
  have hge := isPrefix_of_bytes8_le hfirst hbefore hwide.ge
  obtain rfl : before = ['é'] := hle.eq_of_length (Nat.le_antisymm hle.length_le hge.length_le)
  obtain ⟨-, hoffset', hread'⟩ := htwo '😀' rfl (by decide)
  exact ⟨htext, hline, hstart, hend, hpoints, hoffset, hread, hoffset', hread'⟩

end Position

end TexCompletion
