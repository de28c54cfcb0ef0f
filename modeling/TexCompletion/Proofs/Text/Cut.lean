import Mathlib.Data.List.Basic
import TexCompletion.Text.Lines

/-!
# Cutting a text in two

A cursor cuts a text in two, and typing puts something between the halves.  This file tells the
lines of the whole from the lines of the halves: the last line of the first half and the first line
of the second are one, and the others stay what they are (`glue`).

For source lines this holds at every cut (`pieces_append`).  For editor lines the cut must not go
through the middle of `\r\n` (`editorLines_append`).  `editorLines_cut` goes the other way, from a
point on a line of the whole to the lines of the halves; it is an induction along the lines in front
of the point, each of which is complete (`editorLines_of_cons`).
-/

namespace TexCompletion.Text

/-! ## Gluing lines -/

/-- The lines of two texts put together: the last line of the first and the first line of the second
become one. -/
def glue (ls ms : List (List Char)) : List (List Char) :=
  ls.dropLast ++ (ls.getLast?.getD [] ++ ms.head?.getD []) :: ms.tail

theorem glue_concat_cons (init rest : List (List Char)) (l m : List Char) :
    glue (init ++ [l]) (m :: rest) = init ++ (l ++ m) :: rest := by
  simp [glue]

theorem glue_cons {ls : List (List Char)} (h : ls ≠ []) (l : List Char) (ms : List (List Char)) :
    glue (l :: ls) ms = l :: glue ls ms := by
  obtain ⟨l', ls, rfl⟩ := List.exists_cons_of_ne_nil h
  rfl

theorem glue_prependTo {ls : List (List Char)} (h : ls ≠ []) (c : Char)
    (ms : List (List Char)) : glue (prependTo c ls) ms = prependTo c (glue ls ms) := by
  obtain ⟨l, ls, rfl⟩ := List.exists_cons_of_ne_nil h
  cases ls <;> rfl

theorem nil_glue {ms : List (List Char)} (h : ms ≠ []) : glue [[]] ms = ms := by
  obtain ⟨m, ms, rfl⟩ := List.exists_cons_of_ne_nil h
  simp [glue]

/-! ## Source lines -/

theorem pieces_cons (c : Char) (cs : List Char) :
    pieces (c :: cs) = if c = '\n' then [] :: pieces cs else prependTo c (pieces cs) := by
  rw [pieces]
  cases pieces cs <;> rfl

theorem pieces_append (as bs : List Char) : pieces (as ++ bs) = glue (pieces as) (pieces bs) := by
  induction as with
  | nil => exact (nil_glue (pieces_ne_nil bs)).symm
  | cons a as ih =>
    rw [List.cons_append, pieces_cons, pieces_cons, ih]
    split
    · exact (glue_cons (pieces_ne_nil as) _ _).symm
    · exact (glue_prependTo (pieces_ne_nil as) _ _).symm

/-- A text has one more piece than line feeds. -/
theorem length_pieces (cs : List Char) : (pieces cs).length = cs.count '\n' + 1 := by
  induction cs with
  | nil => rfl
  | cons c cs ih =>
    rw [pieces_cons]
    split
    next h => simp [h, ih]
    next h =>
      rw [List.count_cons_of_ne h, ← ih]
      cases hp : pieces cs with
      | nil => exact absurd hp (pieces_ne_nil cs)
      | cons p ps => rfl

/-- The first piece of a text is the whole text, or ends at the first line feed. -/
theorem pieces_eq_cons {cs p : List Char} {ps : List (List Char)} (h : pieces cs = p :: ps) :
    '\n' ∉ p ∧ (cs = p ∧ ps = [] ∨ ∃ rest, cs = p ++ '\n' :: rest ∧ ps = pieces rest) := by
  induction cs generalizing p with
  | nil =>
    obtain ⟨rfl, rfl⟩ := List.cons.inj h
    exact ⟨by simp, .inl ⟨rfl, rfl⟩⟩
  | cons c cs ih =>
    rw [pieces_cons] at h
    split at h
    next hc =>
      obtain ⟨rfl, rfl⟩ := List.cons.inj h
      exact ⟨by simp, .inr ⟨cs, by rw [hc, List.nil_append], rfl⟩⟩
    next hc =>
      obtain ⟨q, qs, hq⟩ := List.exists_cons_of_ne_nil (pieces_ne_nil cs)
      rw [hq] at h
      obtain ⟨rfl, rfl⟩ := List.cons.inj h
      obtain ⟨hmem, hrest⟩ := ih hq
      refine ⟨by simpa [Ne.symm hc] using hmem, ?_⟩
      rcases hrest with ⟨rfl, rfl⟩ | ⟨rest, rfl, rfl⟩
      · exact .inl ⟨rfl, rfl⟩
      · exact .inr ⟨rest, rfl, rfl⟩

/-- A text without line feeds is one piece. -/
theorem pieces_of_not_mem {cs : List Char} (h : '\n' ∉ cs) : pieces cs = [cs] := by
  induction cs with
  | nil => rfl
  | cons c cs ih =>
    rw [List.mem_cons, not_or] at h
    rw [pieces_cons, if_neg (Ne.symm h.1), ih h.2, prependTo]

/-! ## Editor lines -/

theorem not_feed_or_return {c : Char} (h : ¬ isLineBreak c = true) : ¬(c = '\n' ∨ c = '\r') := by
  rintro (rfl | rfl) <;> exact h rfl

theorem prependTo_ne_nil (c : Char) (ls : List (List Char)) : prependTo c ls ≠ [] := by
  cases ls <;> simp [prependTo]

theorem editorLines_ne_nil (cs : List Char) : editorLines cs ≠ [] := by
  fun_induction editorLines cs with
  | case4 c cs => exact prependTo_ne_nil _ _
  | _ => simp

/-- A character that is not the first half of `\r\n` ends a line or begins one. -/
theorem editorLines_cons {c : Char} {cs : List Char} (h : ¬(c = '\r' ∧ cs.head? = some '\n')) :
    editorLines (c :: cs) =
      if isLineBreak c then [c] :: editorLines cs else prependTo c (editorLines cs) := by
  rw [editorLines]
  rintro cs rfl rfl
  exact h ⟨rfl, rfl⟩

/-- Unless the cut goes through `\r\n`, the lines of a text are those of its halves, glued. -/
theorem editorLines_append {as bs : List Char}
    (h : ¬(as.getLast? = some '\r' ∧ bs.head? = some '\n')) :
    editorLines (as ++ bs) = glue (editorLines as) (editorLines bs) := by
  have tail {c : Char} {cs : List Char}
      (h : ¬((c :: cs).getLast? = some '\r' ∧ bs.head? = some '\n')) :
      ¬(cs.getLast? = some '\r' ∧ bs.head? = some '\n') := by
    rintro ⟨hr, hn⟩
    exact h ⟨by simp [List.getLast?_cons, hr], hn⟩
  have first {c : Char} {cs : List Char} (hcs : ∀ rest, c = '\r' → cs = '\n' :: rest → False)
      (h : ¬((c :: cs).getLast? = some '\r' ∧ bs.head? = some '\n')) :
      ¬(c = '\r' ∧ (cs ++ bs).head? = some '\n') := by
    rintro ⟨rfl, hn⟩
    cases cs with
    | nil => exact h ⟨rfl, hn⟩
    | cons d cs => exact hcs cs rfl (by simpa using hn)
  fun_induction editorLines as with
  | case1 => exact (nil_glue (editorLines_ne_nil bs)).symm
  | case2 cs ih =>
    rw [glue_cons (editorLines_ne_nil cs), ← ih (tail (tail h))]
    rfl
  | case3 c cs hcs hc ih =>
    rw [List.cons_append, editorLines_cons (first hcs h), if_pos hc, ih (tail h),
      glue_cons (editorLines_ne_nil cs)]
  | case4 c cs hcs hc ih =>
    rw [List.cons_append, editorLines_cons (first hcs h), if_neg hc, ih (tail h),
      glue_prependTo (editorLines_ne_nil cs)]

/-- A text without line breaks is one line. -/
theorem editorLines_of_not_isLineBreak {cs : List Char} (h : ∀ c ∈ cs, isLineBreak c = false) :
    editorLines cs = [cs] := by
  induction cs with
  | nil => rfl
  | cons c cs ih =>
    have hc := h c List.mem_cons_self
    have hr : ¬(c = '\r' ∧ cs.head? = some '\n') := by
      rintro ⟨rfl, -⟩
      exact absurd hc (by decide)
    rw [editorLines_cons hr, ih fun d hd => h d (List.mem_cons_of_mem _ hd), hc]
    rfl

/-- A line that is not the last one is complete, and the cut behind it does not go through
`\r\n`. -/
theorem editorLines_of_cons {cs line : List Char} {ls : List (List Char)} (hls : ls ≠ [])
    (h : editorLines cs = line :: ls) :
    editorLines line = [line, []] ∧
      ¬(line.getLast? = some '\r' ∧ ls.flatten.head? = some '\n') := by
  fun_induction editorLines cs generalizing line with
  | case1 =>
    obtain ⟨-, rfl⟩ := List.cons.inj h
    exact absurd rfl hls
  | case2 cs ih =>
    obtain ⟨rfl, -⟩ := List.cons.inj h
    exact ⟨rfl, by simp⟩
  | case3 c cs hcs hc ih =>
    obtain ⟨rfl, rfl⟩ := List.cons.inj h
    rw [editorLines_cons (by simp), if_pos hc, flatten_editorLines]
    refine ⟨rfl, ?_⟩
    rintro ⟨hr, hn⟩
    obtain ⟨rest, rfl⟩ := List.head?_eq_some_iff.mp hn
    exact hcs rest (by simpa using hr) rfl
  | case4 c cs hcs hc ih =>
    obtain ⟨l, ls', hcons⟩ := List.exists_cons_of_ne_nil (editorLines_ne_nil cs)
    rw [hcons] at h
    obtain ⟨rfl, rfl⟩ := List.cons.inj h
    obtain ⟨hline, hcut⟩ := ih hcons
    have hr : ¬(c = '\r' ∧ l.head? = some '\n') := by
      rintro ⟨rfl, -⟩
      exact hc (by decide)
    have hl : l ≠ [] := by
      rintro rfl
      exact absurd hline (by decide)
    rw [editorLines_cons hr, if_neg hc, hline, List.getLast?_cons_of_ne_nil hl]
    exact ⟨rfl, hcut⟩

/-- A complete line in front of a text is a line of its own, if the cut behind it does not go
through `\r\n`. -/
theorem editorLines_append_of_line {line cs : List Char} (hline : editorLines line = [line, []])
    (h : ¬(line.getLast? = some '\r' ∧ cs.head? = some '\n')) :
    editorLines (line ++ cs) = line :: editorLines cs := by
  rw [editorLines_append h, hline, glue_cons (by simp), nil_glue (editorLines_ne_nil cs)]

/-- What is put in front of a text without breaking a line goes to its first line. -/
theorem editorLines_append_of_not_isLineBreak {before : List Char}
    (h : ∀ c ∈ before, isLineBreak c = false) (cs : List Char) :
    editorLines (before ++ cs) = glue [before] (editorLines cs) := by
  have hr : ¬(before.getLast? = some '\r' ∧ cs.head? = some '\n') := by
    rintro ⟨hr, -⟩
    exact absurd (h _ (List.mem_of_getLast? hr)) (by decide)
  rw [editorLines_append hr, editorLines_of_not_isLineBreak h]

/-- A point on a line, with no break of the line before it, cuts the lines of the text in two: the
line of the point becomes the last of the one half and the first of the other. -/
theorem editorLines_cut {cs : List Char} {init rest : List (List Char)} {before after : List Char}
    (hlines : editorLines cs = init ++ (before ++ after) :: rest)
    (hbefore : ∀ c ∈ before, isLineBreak c = false) :
    editorLines (init.flatten ++ before) = init ++ [before] ∧
      editorLines (after ++ rest.flatten) = after :: rest := by
  induction init generalizing cs with
  | nil =>
    have htext : before ++ (after ++ rest.flatten) = cs := by
      rw [← flatten_editorLines cs, hlines]
      simp
    refine ⟨editorLines_of_not_isLineBreak hbefore, ?_⟩
    rw [← htext, editorLines_append_of_not_isLineBreak hbefore] at hlines
    obtain ⟨l, ls, hls⟩ := List.exists_cons_of_ne_nil (editorLines_ne_nil (after ++ rest.flatten))
    rw [hls] at hlines ⊢
    simpa [glue] using hlines
  | cons line init ih =>
    rw [List.cons_append] at hlines
    obtain ⟨hline, hcut⟩ := editorLines_of_cons (by simp) hlines
    have htext : line ++ (init ++ (before ++ after) :: rest).flatten = cs := by
      rw [← flatten_editorLines cs, hlines]
      rfl
    rw [← htext, editorLines_append_of_line hline hcut] at hlines
    obtain ⟨hleft, hright⟩ := ih (List.cons.inj hlines).2
    -- the first half begins like the whole rest of the text
    have hcut : ¬(line.getLast? = some '\r' ∧ (init.flatten ++ before).head? = some '\n') := by
      rintro ⟨hr, hn⟩
      refine hcut ⟨hr, ?_⟩
      rw [List.flatten_append, List.flatten_cons, List.append_assoc, ← List.append_assoc,
        List.head?_append, hn, Option.some_or]
    refine ⟨?_, hright⟩
    rw [List.flatten_cons, List.append_assoc, editorLines_append_of_line hline hcut, hleft,
      List.cons_append]

end TexCompletion.Text
