import TexCompletion.Completion.Request
import TexCompletion.Proofs.Text.Cut
import TexCompletion.Text.Units

/-!
# The line that holds the cursor

A request numbers the line of the cursor by counting line feeds (`Request.lineNumber`).  That this
is the line the cursor is on needs a second reading, by the bytes that a line takes
(`HoldsOffset`): an offset belongs to the line whose bytes, its line feed excluded, it stands in
front of or behind, and every offset past the end belongs to the last line.
`holdsOffset_iff` says that the two agree at every offset, also at one inside a character, and
`lineFeedsBefore_append` says what the number is for a cursor that cuts the text in two.
-/

namespace TexCompletion

open Text

/-- How many bytes lines take up together with their line feeds. -/
def bytesOfLines : List (List Char) → Nat
  | [] => 0
  | l :: ls => bytes8 l + 1 + bytesOfLines ls

/-- The line with a number, counted from one, holds a byte offset. -/
def HoldsOffset (text : List Char) (offset number : Nat) : Prop :=
  ∃ init line rest,
    pieces text = init ++ line :: rest ∧ number = init.length + 1 ∧
      bytesOfLines init ≤ offset ∧ (offset ≤ bytesOfLines init + bytes8 line ∨ rest = [])

/-! ## Counting line feeds -/

theorem lineFeedsBefore_zero (cs : List Char) : lineFeedsBefore cs 0 = 0 := by
  cases cs <;> rfl

/-- In front of an offset in the second half of a text are the line feeds of the first half, and
those in front of the offset in the second. -/
theorem lineFeedsBefore_append_add (left right : List Char) (k : Nat) :
    lineFeedsBefore (left ++ right) (bytes8 left + k) =
      left.count '\n' + lineFeedsBefore right k := by
  induction left with
  | nil => simp
  | cons c cs ih =>
    have hsize : 0 < c.utf8Size := Char.utf8Size_pos c
    have hrest : c.utf8Size + bytes8 cs + k - c.utf8Size = bytes8 cs + k := by omega
    rw [List.cons_append, lineFeedsBefore, bytes8_cons, if_neg (by omega), hrest, ih,
      List.count_cons]
    by_cases h : c = '\n' <;> simp [h]
    omega

/-- In front of the second half of a text are the line feeds of the first. -/
theorem lineFeedsBefore_append (left right : List Char) :
    lineFeedsBefore (left ++ right) (bytes8 left) = left.count '\n' := by
  have h := lineFeedsBefore_append_add left right 0
  rwa [Nat.add_zero, lineFeedsBefore_zero, Nat.add_zero] at h

/-- An offset on the first line has no line feed in front of it. -/
theorem lineFeedsBefore_eq_zero {line rest : List Char} {offset : Nat} (hline : '\n' ∉ line)
    (h : offset ≤ bytes8 line ∨ rest = []) : lineFeedsBefore (line ++ rest) offset = 0 := by
  induction line generalizing offset with
  | nil =>
    rcases h with h | rfl
    · obtain rfl : offset = 0 := Nat.le_zero.mp h
      exact lineFeedsBefore_zero rest
    · rfl
  | cons c cs ih =>
    obtain ⟨hc, hcs⟩ : '\n' ≠ c ∧ '\n' ∉ cs := by simpa using hline
    have hrest : offset - c.utf8Size ≤ bytes8 cs ∨ rest = [] := h.imp_left fun h => by
      rw [bytes8_cons] at h
      omega
    rw [List.cons_append, lineFeedsBefore, if_neg (Ne.symm hc), ih hcs hrest]
    split <;> rfl

/-! ## The line of an offset -/

/-- A line that holds an offset has as many line feeds in front of it as the offset. -/
theorem lineFeedsBefore_of_pieces {text line : List Char} {init rest : List (List Char)}
    {offset : Nat} (hpieces : pieces text = init ++ line :: rest)
    (hstart : bytesOfLines init ≤ offset)
    (hstop : offset ≤ bytesOfLines init + bytes8 line ∨ rest = []) :
    lineFeedsBefore text offset = init.length := by
  induction init generalizing text offset with
  | nil =>
    rw [bytesOfLines, Nat.zero_add] at hstop
    obtain ⟨hline, ⟨rfl, -⟩ | ⟨more, rfl, rfl⟩⟩ := pieces_eq_cons hpieces
    · rw [← List.append_nil text]
      exact lineFeedsBefore_eq_zero hline (.inr rfl)
    · exact lineFeedsBefore_eq_zero hline (.inl (hstop.resolve_right (pieces_ne_nil more)))
  | cons l init ih =>
    rw [bytesOfLines] at hstart hstop
    obtain ⟨hl, ⟨-, hnil⟩ | ⟨more, rfl, hmore⟩⟩ := pieces_eq_cons hpieces
    · exact absurd hnil (by simp)
    obtain ⟨k, rfl⟩ := Nat.exists_eq_add_of_le (show bytes8 l + 1 ≤ offset by omega)
    have hfeed : bytes8 l + 1 = bytes8 (l ++ ['\n']) := (bytes8_append l ['\n']).symm
    have hcount : (l ++ ['\n']).count '\n' = 1 := by
      rw [List.count_append, List.count_eq_zero_of_not_mem hl]
      rfl
    have hrest : k ≤ bytesOfLines init + bytes8 line ∨ rest = [] :=
      hstop.imp_left fun h => by omega
    rw [List.append_cons, hfeed, lineFeedsBefore_append_add, hcount,
      ih hmore.symm (by omega) hrest, List.length_cons, Nat.add_comm]

/-- Among lines laid out one behind the other, some line reaches up to an offset, or the last one
lies in front of it. -/
theorem exists_line_at {ps : List (List Char)} (hps : ps ≠ []) (offset : Nat) :
    ∃ init line rest, ps = init ++ line :: rest ∧ bytesOfLines init ≤ offset ∧
      (offset ≤ bytesOfLines init + bytes8 line ∨ rest = []) := by
  induction ps generalizing offset with
  | nil => exact absurd rfl hps
  | cons p ps ih =>
    by_cases h : offset ≤ bytes8 p ∨ ps = []
    · have hstop : offset ≤ bytesOfLines [] + bytes8 p ∨ ps = [] := by
        rwa [bytesOfLines, Nat.zero_add]
      exact ⟨[], p, ps, rfl, Nat.zero_le _, hstop⟩
    · obtain ⟨hp, hrest⟩ := not_or.mp h
      obtain ⟨init, line, rest, rfl, hstart, hstop⟩ := ih hrest (offset - (bytes8 p + 1))
      refine ⟨p :: init, line, rest, rfl, ?_, hstop.imp_left fun h => ?_⟩
      · rw [bytesOfLines]
        omega
      · rw [bytesOfLines]
        omega

/-- Every offset is on some line. -/
theorem exists_holdsOffset (text : List Char) (offset : Nat) :
    ∃ number, HoldsOffset text offset number := by
  obtain ⟨init, line, rest, h⟩ := exists_line_at (pieces_ne_nil text) offset
  exact ⟨init.length + 1, init, line, rest, h.1, rfl, h.2⟩

/-- **The line of the cursor.**  The line that holds an offset is numbered by the line feeds in
front of the offset. -/
theorem holdsOffset_iff {text : List Char} {offset number : Nat} :
    HoldsOffset text offset number ↔ number = lineFeedsBefore text offset + 1 := by
  have hunique {number : Nat} (h : HoldsOffset text offset number) :
      number = lineFeedsBefore text offset + 1 := by
    obtain ⟨init, line, rest, hpieces, rfl, hstart, hstop⟩ := h
    rw [lineFeedsBefore_of_pieces hpieces hstart hstop]
  refine ⟨hunique, ?_⟩
  rintro rfl
  obtain ⟨number, h⟩ := exists_holdsOffset text offset
  exact hunique h ▸ h

instance (text : List Char) (offset number : Nat) : Decidable (HoldsOffset text offset number) :=
  decidable_of_iff _ holdsOffset_iff.symm

end TexCompletion
