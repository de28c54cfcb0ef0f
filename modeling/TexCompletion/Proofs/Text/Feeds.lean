import TexCompletion.Proofs.Position.Column
import TexCompletion.Proofs.Text.Cut

/-!
# Texts that break at line feeds only

The lines of a document are cut at every line break of Unicode, the lines of a source at line feeds.
A text in which every break is a line feed, alone or behind a carriage return (`OnlyFeeds`), has the
same lines either way: `lineContent_editorLines` says so line by line, up to an empty line at the end,
which a source does not count.

For the numbers of the lines more is true.  Among any number of lines at the start of a text there
are at most as many line feeds as lines, and there are as many, whatever their number, exactly if the
text breaks at line feeds only (`count_take_editorLines_iff`).
-/

namespace TexCompletion.Text

/-- Every break of the text is a line feed, alone or behind a carriage return. -/
def OnlyFeeds (cs : List Char) : Prop :=
  ∀ before c after, cs = before ++ c :: after → isLineBreak c = true →
    c = '\n' ∨ c = '\r' ∧ after.head? = some '\n'

theorem onlyFeeds_nil : OnlyFeeds [] := by
  intro before c after h
  simp at h

theorem onlyFeeds_cons {c : Char} {cs : List Char} :
    OnlyFeeds (c :: cs) ↔
      (isLineBreak c = true → c = '\n' ∨ c = '\r' ∧ cs.head? = some '\n') ∧ OnlyFeeds cs := by
  constructor
  · intro h
    refine ⟨h [] c cs rfl, fun before d after heq => ?_⟩
    exact h (c :: before) d after (by rw [heq, List.cons_append])
  · rintro ⟨hc, hcs⟩ before d after heq
    cases before with
    | nil =>
      obtain ⟨rfl, rfl⟩ := List.cons.inj heq
      exact hc
    | cons e before =>
      obtain ⟨-, rfl⟩ := List.cons.inj heq
      exact hcs before d after rfl

/-- In front of anything but a line feed, only a line feed is allowed for a break. -/
theorem feed_or_return_iff {c : Char} {cs : List Char}
    (h : ∀ rest, c = '\r' → cs = '\n' :: rest → False) :
    (c = '\n' ∨ c = '\r' ∧ cs.head? = some '\n') ↔ c = '\n' := by
  refine or_iff_left ?_
  rintro ⟨hreturn, hhead⟩
  obtain ⟨rest, rfl⟩ := List.head?_eq_some_iff.mp hhead
  exact h rest hreturn rfl

/-! ## The same lines -/

theorem dropReturn_cons_of_ne {c : Char} (h : c ≠ '\r') (cs : List Char) :
    dropReturn (c :: cs) = c :: dropReturn cs := by
  cases cs with
  | nil => simp [dropReturn, h]
  | cons d cs =>
    simp only [dropReturn, List.getLast?_cons_cons]
    split <;> rfl

/-- The lines of a document hold what the pieces between line feeds hold. -/
theorem lineContent_editorLines_eq_pieces {cs : List Char} (h : OnlyFeeds cs) :
    (editorLines cs).map lineContent = (pieces cs).map dropReturn := by
  fun_induction editorLines cs with
  | case1 => rfl
  | case2 cs ih =>
    have hcs := (onlyFeeds_cons.mp (onlyFeeds_cons.mp h).2).2
    rw [pieces_cons, if_neg (by decide), pieces_cons, if_pos rfl, prependTo, List.map_cons,
      List.map_cons, ih hcs]
    rfl
  | case3 c cs hcs hc ih =>
    obtain ⟨hbreak, hrest⟩ := onlyFeeds_cons.mp h
    obtain rfl : c = '\n' := (feed_or_return_iff hcs).mp (hbreak hc)
    rw [pieces_cons, if_pos rfl, List.map_cons, List.map_cons, ih hrest]
    rfl
  | case4 c cs hcs hc ih =>
    obtain ⟨-, hrest⟩ := onlyFeeds_cons.mp h
    have hne := not_feed_or_return hc
    obtain ⟨hn, hr⟩ := not_or.mp hne
    have ih := ih hrest
    obtain ⟨l, ls, hl⟩ := List.exists_cons_of_ne_nil (editorLines_ne_nil cs)
    obtain ⟨p, ps, hp⟩ := List.exists_cons_of_ne_nil (pieces_ne_nil cs)
    rw [hl, hp, List.map_cons, List.map_cons, List.cons.injEq] at ih
    rw [pieces_cons, if_neg hn, hl, hp, prependTo, prependTo, List.map_cons, List.map_cons,
      lineContent_cons_of_ne hne, dropReturn_cons_of_ne hr, ih.1, ih.2]

/-- The last piece of a text is its end. -/
theorem exists_last_piece (cs : List Char) :
    ∃ init last, pieces cs = init ++ [last] ∧ last <:+ cs := by
  induction cs with
  | nil => exact ⟨[], [], rfl, List.suffix_rfl⟩
  | cons c cs ih =>
    obtain ⟨init, last, hpieces, hend⟩ := ih
    rw [pieces_cons]
    split
    next => exact ⟨[] :: init, last, by rw [hpieces, List.cons_append],
      hend.trans (List.suffix_cons c cs)⟩
    next =>
      rw [hpieces]
      cases init with
      | nil =>
        -- a text of one piece is that piece
        obtain ⟨-, ⟨rfl, -⟩ | ⟨rest, -, hnil⟩⟩ := pieces_eq_cons hpieces
        · exact ⟨[], c :: cs, rfl, List.suffix_rfl⟩
        · exact absurd hnil.symm (pieces_ne_nil rest)
      | cons l init => exact ⟨(c :: l) :: init, last, rfl, hend.trans (List.suffix_cons c cs)⟩

/-- **The lines of the document are the lines of the source**, but for an empty line at the end. -/
theorem lineContent_editorLines {cs : List Char} (h : OnlyFeeds cs) :
    ∃ last, (last = [] ∨ last = [[]]) ∧
      (editorLines cs).map lineContent = lines cs ++ last := by
  obtain ⟨init, last, hpieces, hend⟩ := exists_last_piece cs
  have hlast : dropReturn last = last := by
    rw [dropReturn, if_neg]
    intro hreturn
    obtain ⟨front, rfl⟩ := List.getLast?_eq_some_iff.mp hreturn
    obtain ⟨before, rfl⟩ := hend
    have hbreak := h (before ++ front) '\r' [] (by simp) (by decide)
    simp at hbreak
  have hlines : lines cs = init.map dropReturn ++ [last].filter (· ≠ []) := by
    simp only [lines, hpieces, List.dropLast_concat, List.getLast?_concat, Option.toList_some]
  rw [lineContent_editorLines_eq_pieces h, hlines, hpieces, List.map_append, List.map_singleton,
    hlast]
  by_cases hempty : last = []
  · exact ⟨[[]], .inr rfl, by simp [hempty]⟩
  · exact ⟨[], .inl rfl, by simp [hempty]⟩

/-- A line of the document with something on it is a line of the source, with the same number. -/
theorem getElem?_lines {cs line : List Char} {i : Nat} (h : OnlyFeeds cs)
    (hline : (editorLines cs)[i]? = some line) (hne : lineContent line ≠ []) :
    (lines cs)[i]? = some (lineContent line) := by
  obtain ⟨last, hlast, hlines⟩ := lineContent_editorLines h
  have hget : (lines cs ++ last)[i]? = some (lineContent line) := by
    rw [← hlines, List.getElem?_map, hline, Option.map_some]
  rw [List.getElem?_append] at hget
  split at hget
  next => exact hget
  next =>
    have hmem := List.mem_of_getElem? hget
    rcases hlast with rfl | rfl
    · cases hmem
    · exact absurd (List.mem_singleton.mp hmem) hne

/-! ## The same numbers -/

/-- No line holds two line feeds. -/
theorem count_le_one_of_mem_editorLines {cs line : List Char} (h : line ∈ editorLines cs) :
    line.count '\n' ≤ 1 := by
  fun_induction editorLines cs generalizing line with
  | case1 =>
    rw [List.mem_singleton.mp h]
    exact Nat.zero_le _
  | case2 cs ih =>
    rcases List.mem_cons.mp h with rfl | h
    · decide
    · exact ih h
  | case3 c cs hcs hc ih =>
    rcases List.mem_cons.mp h with rfl | h
    · exact List.count_le_length
    · exact ih h
  | case4 c cs hcs hc ih =>
    obtain ⟨hn, -⟩ := not_or.mp (not_feed_or_return hc)
    obtain ⟨l, ls, hl⟩ := List.exists_cons_of_ne_nil (editorLines_ne_nil cs)
    rw [hl, prependTo] at h
    rcases List.mem_cons.mp h with rfl | h
    · rw [List.count_cons_of_ne hn]
      exact ih (hl ▸ List.mem_cons_self)
    · exact ih (hl ▸ List.mem_cons_of_mem _ h)

/-- Every line but the last holds a line feed exactly if the text breaks at line feeds only. -/
theorem mem_dropLast_editorLines_iff (cs : List Char) :
    (∀ line ∈ (editorLines cs).dropLast, '\n' ∈ line) ↔ OnlyFeeds cs := by
  fun_induction editorLines cs with
  | case1 => exact iff_of_true (by simp) onlyFeeds_nil
  | case2 cs ih =>
    rw [List.dropLast_cons_of_ne_nil (editorLines_ne_nil cs), List.forall_mem_cons, ih,
      onlyFeeds_cons, onlyFeeds_cons]
    simp
  | case3 c cs hcs hc ih =>
    rw [List.dropLast_cons_of_ne_nil (editorLines_ne_nil cs), List.forall_mem_cons, ih,
      onlyFeeds_cons, feed_or_return_iff hcs, List.mem_singleton, eq_comm]
    simp [hc]
  | case4 c cs hcs hc ih =>
    have hn : '\n' ≠ c := Ne.symm (not_or.mp (not_feed_or_return hc)).1
    rw [onlyFeeds_cons, ← ih]
    obtain ⟨l, ls, hl⟩ := List.exists_cons_of_ne_nil (editorLines_ne_nil cs)
    rw [hl, prependTo]
    cases ls with
    | nil => simp [hc]
    | cons m ls => simp [hc, hn]

/-- Lines with at most one line feed each have no more line feeds than lines. -/
theorem count_flatten_le_length {ls : List (List Char)} (h : ∀ line ∈ ls, line.count '\n' ≤ 1) :
    ls.flatten.count '\n' ≤ ls.length := by
  induction ls with
  | nil => exact Nat.le_refl _
  | cons l ls ih =>
    obtain ⟨hl, hls⟩ := List.forall_mem_cons.mp h
    have := ih hls
    rw [List.flatten_cons, List.count_append, List.length_cons]
    omega

/-- They have as many exactly if each has one. -/
theorem count_flatten_eq_length_iff {ls : List (List Char)} (h : ∀ line ∈ ls, line.count '\n' ≤ 1) :
    ls.flatten.count '\n' = ls.length ↔ ∀ line ∈ ls, '\n' ∈ line := by
  induction ls with
  | nil => simp
  | cons l ls ih =>
    obtain ⟨hl, hls⟩ := List.forall_mem_cons.mp h
    have hle := count_flatten_le_length hls
    rw [List.forall_mem_cons, ← ih hls, ← List.count_pos_iff, List.flatten_cons, List.count_append,
      List.length_cons]
    omega

/-- **Line feeds number the lines of a text** exactly if it breaks at line feeds only. -/
theorem count_take_editorLines_iff (cs : List Char) :
    (∀ n < (editorLines cs).length, ((editorLines cs).take n).flatten.count '\n' = n) ↔
      OnlyFeeds cs := by
  have hpos : 0 < (editorLines cs).length := List.length_pos_iff.mpr (editorLines_ne_nil cs)
  have hcount {n : Nat} (hn : n < (editorLines cs).length) :
      ((editorLines cs).take n).flatten.count '\n' = n ↔
        ∀ line ∈ (editorLines cs).take n, '\n' ∈ line := by
    rw [← count_flatten_eq_length_iff fun line hline =>
      count_le_one_of_mem_editorLines (List.mem_of_mem_take hline),
      List.length_take_of_le (Nat.le_of_lt hn)]
  rw [← mem_dropLast_editorLines_iff, List.dropLast_eq_take]
  constructor
  · intro h
    have hlast : (editorLines cs).length - 1 < (editorLines cs).length := by omega
    exact (hcount hlast).mp (h _ hlast)
  · intro h n hn
    refine (hcount hn).mpr fun line hline => h line ?_
    exact (List.take_subset_take_left _ (by omega)) hline

end TexCompletion.Text
