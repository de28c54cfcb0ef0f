import TexCompletion.Proofs.Text.Cut

/-!
# Carriage returns in front of line feeds

The same document is written with `\n` at the ends of its lines by one editor and with `\r\n` by
another.  `withReturns` turns the first into the second.

Of a text without carriage returns, both notions of line see through the change.  The source lines stay
what they are (`lines_withReturns`), and the editor lines stay the same up to the breaks at their ends
(`editorLines_withReturns`).
-/

namespace TexCompletion.Text

/-- The text with a carriage return put in front of each line feed. -/
def withReturns (cs : List Char) : List Char :=
  cs.flatMap fun c => if c = '\n' then ['\r', '\n'] else [c]

@[simp] theorem withReturns_nil : withReturns [] = [] := rfl

theorem withReturns_feed (cs : List Char) :
    withReturns ('\n' :: cs) = '\r' :: '\n' :: withReturns cs := rfl

theorem withReturns_cons_of_ne {c : Char} (h : c ≠ '\n') (cs : List Char) :
    withReturns (c :: cs) = c :: withReturns cs := by
  rw [withReturns, List.flatMap_cons, if_neg h]
  rfl

theorem withReturns_flatten (ls : List (List Char)) :
    withReturns ls.flatten = (ls.map withReturns).flatten := by
  induction ls with
  | nil => rfl
  | cons l ls ih =>
    rw [List.flatten_cons, List.map_cons, List.flatten_cons, ← ih, withReturns, List.flatMap_append]
    rfl

/-- No line feed comes in and none is lost. -/
theorem count_withReturns (cs : List Char) : (withReturns cs).count '\n' = cs.count '\n' := by
  induction cs with
  | nil => rfl
  | cons c cs ih =>
    by_cases h : c = '\n'
    · subst h
      rw [withReturns_feed, List.count_cons_of_ne (by decide), List.count_cons_self,
        List.count_cons_self, ih]
    · rw [withReturns_cons_of_ne h, List.count_cons_of_ne h, List.count_cons_of_ne h, ih]

/-! ## Source lines -/

/-- Each piece but the last one gets a carriage return at its end. -/
theorem exists_pieces_withReturns (cs : List Char) :
    ∃ init last, pieces cs = init ++ [last] ∧
      pieces (withReturns cs) = init.map (· ++ ['\r']) ++ [last] := by
  induction cs with
  | nil => exact ⟨[], [], rfl, rfl⟩
  | cons c cs ih =>
    obtain ⟨init, last, hpieces, hreturns⟩ := ih
    by_cases hc : c = '\n'
    · subst hc
      refine ⟨[] :: init, last, ?_, ?_⟩
      · rw [pieces_cons, if_pos rfl, hpieces, List.cons_append]
      · rw [withReturns_feed, pieces_cons, if_neg (by decide), pieces_cons, if_pos rfl, hreturns]
        rfl
    · rw [withReturns_cons_of_ne hc, pieces_cons, pieces_cons, if_neg hc, if_neg hc, hpieces,
        hreturns]
      cases init with
      | nil => exact ⟨[], c :: last, rfl, rfl⟩
      | cons l init => exact ⟨(c :: l) :: init, last, rfl, rfl⟩

/-- The pieces of a text hold characters of the text. -/
theorem subset_of_mem_pieces {cs p : List Char} (h : p ∈ pieces cs) : p ⊆ cs := by
  induction cs generalizing p with
  | nil =>
    rw [List.mem_singleton.mp h]
    exact List.Subset.refl _
  | cons c cs ih =>
    rw [pieces_cons] at h
    split at h
    next =>
      rcases List.mem_cons.mp h with rfl | h
      · exact List.nil_subset _
      · exact List.subset_cons_of_subset _ (ih h)
    next =>
      obtain ⟨q, qs, hq⟩ := List.exists_cons_of_ne_nil (pieces_ne_nil cs)
      rw [hq, prependTo] at h
      rcases List.mem_cons.mp h with rfl | h
      · exact List.cons_subset_cons _ (ih (hq ▸ List.mem_cons_self))
      · exact List.subset_cons_of_subset _ (ih (hq ▸ List.mem_cons_of_mem _ h))

theorem dropReturn_of_not_mem {cs : List Char} (h : '\r' ∉ cs) : dropReturn cs = cs := by
  rw [dropReturn, if_neg fun hlast => h (List.mem_of_getLast? hlast)]

theorem dropReturn_concat (cs : List Char) : dropReturn (cs ++ ['\r']) = cs := by
  simp [dropReturn]

/-- **The source lines stay.**  The carriage returns belong to the breaks. -/
theorem lines_withReturns {cs : List Char} (h : '\r' ∉ cs) : lines (withReturns cs) = lines cs := by
  obtain ⟨init, last, hpieces, hreturns⟩ := exists_pieces_withReturns cs
  have hkept : (init.map (· ++ ['\r'])).map dropReturn = init.map dropReturn := by
    rw [List.map_map]
    refine List.map_congr_left fun p hp => ?_
    have hp : '\r' ∉ p := fun hr =>
      h (subset_of_mem_pieces (hpieces ▸ List.mem_append_left _ hp) hr)
    rw [Function.comp_apply, dropReturn_concat, dropReturn_of_not_mem hp]
  simp only [lines, hpieces, hreturns, List.dropLast_concat, List.getLast?_concat, hkept]

/-! ## Editor lines -/

/-- **The editor lines stay**, but for the carriage returns in their breaks. -/
theorem editorLines_withReturns {cs : List Char} (h : '\r' ∉ cs) :
    editorLines (withReturns cs) = (editorLines cs).map withReturns := by
  induction cs with
  | nil => rfl
  | cons c cs ih =>
    obtain ⟨hc, hcs⟩ : '\r' ≠ c ∧ '\r' ∉ cs := by simpa using h
    have hcut (ds : List Char) : ¬(c = '\r' ∧ ds.head? = some '\n') := fun hr => hc hr.1.symm
    rw [editorLines_cons (hcut cs)]
    by_cases hfeed : c = '\n'
    · subst hfeed
      rw [withReturns_feed, editorLines, ih hcs]
      rfl
    · rw [withReturns_cons_of_ne hfeed, editorLines_cons (hcut _), ih hcs]
      split
      next => rw [List.map_cons, withReturns_cons_of_ne hfeed, withReturns_nil]
      next =>
        obtain ⟨l, ls, hl⟩ := List.exists_cons_of_ne_nil (editorLines_ne_nil cs)
        rw [hl, List.map_cons, prependTo, prependTo, List.map_cons, withReturns_cons_of_ne hfeed]

end TexCompletion.Text
