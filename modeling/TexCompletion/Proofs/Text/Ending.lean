import Mathlib.Data.List.DropRight
import TexCompletion.Text.Blank

/-!
# Endings and trimming

A text is cut at its longest ending of some kind.  There is one way to cut it like this
(`eq_append_iff_dropEndWhile`), and so there is one way to take the white space around a text away
(`trimChars_eq_iff_isCore`).  If nothing of what is left is white space, it is enough to say that white
space stands around it (`trimChars_eq_iff`).
-/

namespace TexCompletion.Text

/-! ## Cutting at an ending -/

section Ending

variable {p : Char → Bool} {cs front word : List Char}

/-- What is cut off at the end takes in whatever of the same kind follows. -/
theorem dropEndWhile_append_of_all (h : ∀ c ∈ word, p c = true) :
    dropEndWhile p (cs ++ word) = dropEndWhile p cs := by
  rw [dropEndWhile, dropEndWhile, List.reverse_append,
    List.dropWhile_append_of_pos fun c hc => h c (List.mem_reverse.mp hc)]

theorem eq_false_of_getLast?_dropEndWhile {c : Char}
    (h : (dropEndWhile p cs).getLast? = some c) : p c = false := by
  have hhead := List.head?_dropWhile_not p cs.reverse
  rw [dropEndWhile, List.getLast?_reverse] at h
  rw [h] at hhead
  exact hhead

/-- There is one way to cut a text such that the second half is in `p` and the first half does not
end in `p`. -/
theorem eq_append_iff_dropEndWhile :
    (cs = front ++ word ∧ (∀ c ∈ word, p c = true) ∧
        ∀ c, front.getLast? = some c → p c = false) ↔
      dropEndWhile p cs = front ∧ takeEndWhile p cs = word := by
  constructor
  · rintro ⟨rfl, hword, hfront⟩
    have hcut : dropEndWhile p (front ++ word) = front := by
      rw [dropEndWhile_append_of_all hword]
      refine List.rdropWhile_eq_self_iff.mpr fun hne => ?_
      exact Bool.eq_false_iff.mp (hfront _ (List.getLast?_eq_some_getLast hne))
    have hwhole := dropEndWhile_append_takeEndWhile p (front ++ word)
    rw [hcut] at hwhole
    exact ⟨hcut, List.append_cancel_left hwhole⟩
  · rintro ⟨rfl, rfl⟩
    exact ⟨(dropEndWhile_append_takeEndWhile p cs).symm, fun _ => List.mem_rtakeWhile_imp,
      fun _ => eq_false_of_getLast?_dropEndWhile⟩

end Ending

/-! ## Trimming -/

/-- The text is `core` with white space around it, and `core` neither begins nor ends with any. -/
def IsCore (core cs : List Char) : Prop :=
  ∃ left right, cs = left ++ core ++ right ∧ (∀ c ∈ left ++ right, isBlank c = true) ∧
    ∀ c, core.head? = some c ∨ core.getLast? = some c → isBlank c = false

/-- A text has one core, to which it is trimmed down. -/
theorem trimChars_eq_iff_isCore {cs core : List Char} : trimChars cs = core ↔ IsCore core cs := by
  constructor
  · rintro rfl
    have hcut := dropEndWhile_append_takeEndWhile isBlank (cs.dropWhile isBlank)
    refine ⟨cs.takeWhile isBlank, takeEndWhile isBlank (cs.dropWhile isBlank), ?_, fun c hc => ?_,
      fun c hc => ?_⟩
    · rw [List.append_assoc, trimChars, hcut, List.takeWhile_append_dropWhile]
    · rcases List.mem_append.mp hc with hc | hc
      · exact List.mem_takeWhile_imp hc
      · exact List.mem_rtakeWhile_imp hc
    · rcases hc with hhead | hlast
      · have hfirst : (cs.dropWhile isBlank).head? = some c := by
          rw [← hcut]
          exact List.mem_head?_append_of_mem_head? hhead
        have hno := List.head?_dropWhile_not isBlank cs
        rw [hfirst] at hno
        exact hno
      · exact eq_false_of_getLast?_dropEndWhile hlast
  · rintro ⟨left, right, rfl, hblank, hends⟩
    obtain ⟨hleft, hright⟩ := List.forall_mem_append.mp hblank
    have hlast : ∀ c, core.getLast? = some c → isBlank c = false := fun c hc => hends c (.inr hc)
    rw [trimChars, List.append_assoc, List.dropWhile_append_of_pos hleft]
    cases core with
    | nil =>
      have hall : ∀ c ∈ right.dropWhile isBlank, isBlank c = true :=
        fun c hc => hright c ((List.dropWhile_sublist _).subset hc)
      exact (eq_append_iff_dropEndWhile.mp ⟨rfl, hall, hlast⟩).1
    | cons c core =>
      have hc := hends c (.inl rfl)
      rw [List.cons_append, List.dropWhile_cons_of_neg (by simp [hc])]
      exact (eq_append_iff_dropEndWhile.mp ⟨rfl, hright, hlast⟩).1

/-- A text is trimmed down to something without white space exactly if it is that with white space
around it. -/
theorem trimChars_eq_iff {cs core : List Char} (hcore : ∀ c ∈ core, isBlank c = false) :
    trimChars cs = core ↔
      ∃ left right, cs = left ++ core ++ right ∧ ∀ c ∈ left ++ right, isBlank c = true := by
  have hends (c : Char) (h : core.head? = some c ∨ core.getLast? = some c) : isBlank c = false :=
    hcore c (h.elim List.mem_of_head? List.mem_of_getLast?)
  rw [trimChars_eq_iff_isCore, IsCore]
  refine exists_congr fun left => exists_congr fun right => ?_
  rw [and_iff_left hends]

end TexCompletion.Text
