import Mathlib.Data.List.TakeWhile
import TexCompletion.Proofs.Text.Cut
import TexCompletion.Text.Units

/-!
# Where a line lies in its text

A line of a document takes up the bytes from its start (`lineStart`) on.  What stands on it goes up
to its first line break (`unbroken`), and behind that comes nothing but the break, which is one
character or `\r\n` (`exists_ending`).

Places in a text are compared by their bytes: of two beginnings of one text, the one with fewer bytes
is a beginning of the other (`isPrefix_of_bytes8_le`).
-/

namespace TexCompletion.Text

/-! ## Bytes -/

theorem bytes8_le_of_isPrefix {as bs : List Char} (h : as <+: bs) : bytes8 as ≤ bytes8 bs := by
  obtain ⟨more, rfl⟩ := h
  rw [bytes8_append]
  exact Nat.le_add_right _ _

theorem eq_nil_of_bytes8_eq_zero {cs : List Char} (h : bytes8 cs = 0) : cs = [] := by
  cases cs with
  | nil => rfl
  | cons c cs =>
    have hpos := c.utf8Size_pos
    rw [bytes8_cons] at h
    omega

/-- Beginnings of one text are ordered by their bytes. -/
theorem isPrefix_of_bytes8_le {as bs cs : List Char} (has : as <+: cs) (hbs : bs <+: cs)
    (h : bytes8 as ≤ bytes8 bs) : as <+: bs := by
  rcases List.prefix_or_prefix_of_prefix has hbs with hle | ⟨more, rfl⟩
  · exact hle
  · rw [bytes8_append] at h
    obtain rfl : more = [] := eq_nil_of_bytes8_eq_zero (by omega)
    exact ⟨[], by rw [List.append_nil, List.append_nil]⟩

/-! ## The start of a line -/

/-- The byte offset at which a line of a document starts. -/
def lineStart (cs : List Char) (i : Nat) : Nat :=
  bytes8 ((editorLines cs).take i).flatten

/-- The lines of a document in front of a line and behind it. -/
theorem exists_lines_around {cs line : List Char} {i : Nat}
    (h : (editorLines cs)[i]? = some line) :
    ∃ init rest, editorLines cs = init ++ line :: rest ∧ init.length = i ∧
      lineStart cs i = bytes8 init.flatten := by
  obtain ⟨hlt, rfl⟩ := List.getElem?_eq_some_iff.mp h
  refine ⟨_, (editorLines cs).drop (i + 1), ?_, List.length_take_of_le hlt.le, rfl⟩
  rw [← List.drop_eq_getElem_cons hlt, List.take_append_drop]

/-- The next line starts behind the last byte of a line. -/
theorem lineStart_succ {cs line : List Char} {i : Nat} (h : (editorLines cs)[i]? = some line) :
    lineStart cs (i + 1) = lineStart cs i + bytes8 line := by
  obtain ⟨hlt, rfl⟩ := List.getElem?_eq_some_iff.mp h
  rw [lineStart, lineStart, List.take_succ_eq_append_getElem hlt, List.flatten_concat,
    bytes8_append]

theorem lineStart_mono (cs : List Char) {i j : Nat} (h : i ≤ j) :
    lineStart cs i ≤ lineStart cs j := by
  obtain ⟨more, hmore⟩ := List.take_prefix_take_left (l := editorLines cs) h
  rw [lineStart, lineStart, ← hmore, List.flatten_append, bytes8_append]
  exact Nat.le_add_right _ _

/-! ## The end of a line -/

/-- What stands on a line in front of its break. -/
def unbroken (line : List Char) : List Char :=
  line.takeWhile fun c => !isLineBreak c

theorem unbroken_isPrefix (line : List Char) : unbroken line <+: line :=
  List.takeWhile_prefix _

theorem isLineBreak_of_mem_unbroken {line : List Char} {c : Char} (h : c ∈ unbroken line) :
    isLineBreak c = false := by
  simpa using List.mem_takeWhile_imp h

theorem unbroken_cons_of_not_isLineBreak {c : Char} (h : isLineBreak c = false) (cs : List Char) :
    unbroken (c :: cs) = c :: unbroken cs := by
  rw [unbroken, List.takeWhile_cons_of_pos (by rw [h]; rfl), unbroken]

/-- A line holds nothing behind its break, which is one character or `\r\n`. -/
theorem exists_ending {cs line : List Char} (h : line ∈ editorLines cs) :
    ∃ ending, line = unbroken line ++ ending ∧
      (ending = [] ∨ ending = ['\r', '\n'] ∨ ∃ c, isLineBreak c = true ∧ ending = [c]) := by
  fun_induction editorLines cs generalizing line with
  | case1 =>
    rw [List.mem_singleton.mp h]
    exact ⟨[], rfl, .inl rfl⟩
  | case2 cs ih =>
    rcases List.mem_cons.mp h with rfl | h
    · exact ⟨['\r', '\n'], rfl, .inr (.inl rfl)⟩
    · exact ih h
  | case3 c cs hcs hc ih =>
    rcases List.mem_cons.mp h with rfl | h
    · exact ⟨[c], by simp [unbroken, hc], .inr (.inr ⟨c, hc, rfl⟩)⟩
    · exact ih h
  | case4 c cs hcs hc ih =>
    obtain ⟨l, ls, hl⟩ := List.exists_cons_of_ne_nil (editorLines_ne_nil cs)
    have hfirst : l ∈ editorLines cs := hl ▸ List.mem_cons_self
    rw [hl, prependTo] at h
    rcases List.mem_cons.mp h with rfl | h
    · -- the character goes in front of what stands on the first line
      obtain ⟨ending, hline, hending⟩ := ih hfirst
      refine ⟨ending, ?_, hending⟩
      rw [unbroken_cons_of_not_isLineBreak (Bool.eq_false_iff.mpr hc), List.cons_append, ← hline]
    · exact ih (hl ▸ List.mem_cons_of_mem _ h)

end TexCompletion.Text
