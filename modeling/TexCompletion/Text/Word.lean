/-!
# Fixed words and endings

Recognising a fixed word at the start of a text, and asking for an ending of a text with some
property.
-/

namespace TexCompletion.Text

/-- What follows `w` in the text, if the text starts with `w`. -/
def stripWord? (w cs : List Char) : Option (List Char) :=
  if w.isPrefixOf cs then some (cs.drop w.length) else none

/-- The text starts with the word exactly if it is the word and what follows. -/
theorem stripWord?_eq_some_iff {w cs rest : List Char} :
    stripWord? w cs = some rest ↔ cs = w ++ rest := by
  unfold stripWord?
  split
  next h =>
    obtain ⟨t, rfl⟩ := List.isPrefixOf_iff_prefix.mp h
    simp
  next h =>
    simp only [reduceCtorEq, false_iff]
    rintro rfl
    exact h (List.isPrefixOf_iff_prefix.mpr (List.prefix_append _ _))

theorem length_le_of_stripWord? {w cs rest : List Char} (h : stripWord? w cs = some rest) :
    rest.length ≤ cs.length := by
  rw [stripWord?_eq_some_iff.mp h]
  simp

/-- Some ending of the text, the text itself and the empty one included, satisfies `p`. -/
def anySuffix (p : List Char → Bool) : List Char → Bool
  | [] => p []
  | c :: cs => p (c :: cs) || anySuffix p cs

theorem anySuffix_iff {p : List Char → Bool} {cs : List Char} :
    anySuffix p cs = true ↔ ∃ u v, cs = u ++ v ∧ p v = true := by
  induction cs with
  | nil =>
    constructor
    · exact fun h => ⟨[], [], rfl, h⟩
    · rintro ⟨u, v, huv, h⟩
      obtain ⟨rfl, rfl⟩ := List.append_eq_nil_iff.mp huv.symm
      exact h
  | cons c cs ih =>
    rw [anySuffix, Bool.or_eq_true, ih]
    constructor
    · rintro (h | ⟨u, v, rfl, h⟩)
      · exact ⟨[], _, rfl, h⟩
      · exact ⟨c :: u, v, rfl, h⟩
    · rintro ⟨u, v, huv, h⟩
      cases u with
      | nil => exact .inl (by simpa [huv] using h)
      | cons d u =>
        simp only [List.cons_append, List.cons.injEq] at huv
        exact .inr ⟨u, v, huv.2, h⟩

end TexCompletion.Text
