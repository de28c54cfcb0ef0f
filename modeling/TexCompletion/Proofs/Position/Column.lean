import Mathlib.Data.List.TakeWhile
import TexCompletion.Position

/-!
# Columns of a line

`columnText` walks along a line and counts UTF-16 units.  `ReachesColumn` says what it is to find:
the first boundary between two characters whose column is not too small, or the end of the line when
all of them are.  `reachesColumn_iff` says that the walk finds it and nothing else, where a line goes
up to its first `\n` or `\r`.

What the walk takes may be wider than the column, by the second half of its last character and by
nothing else: whatever is shorter falls short (`units16_lt_of_columnText`).
-/

namespace TexCompletion

open Text

/-- The characters of a line in front of its first `\n` or `\r`. -/
def lineContent (line : List Char) : List Char :=
  line.takeWhile fun c => c ≠ '\n' && c ≠ '\r'

/-- What stands in front of a column: the text up to the first boundary between characters whose
column is at least `k`, or the whole line if `k` is past its end. -/
def ReachesColumn (content : List Char) (k : Nat) (before : List Char) : Prop :=
  (before <+: content ∧ k ≤ units16 before ∧
    ∀ other, other <+: content → k ≤ units16 other → before.length ≤ other.length) ∨
  (units16 content < k ∧ before = content)

/-! ## The width of a beginning -/

theorem units16_le_of_isPrefix {as bs : List Char} (h : as <+: bs) : units16 as ≤ units16 bs := by
  obtain ⟨more, rfl⟩ := h
  rw [units16_append]
  exact Nat.le_add_right _ _

/-- Only the whole of a text is as wide as the text. -/
theorem eq_of_isPrefix_of_units16_le {as bs : List Char} (h : as <+: bs)
    (hwide : units16 bs ≤ units16 as) : as = bs := by
  obtain ⟨more, rfl⟩ := h
  cases more with
  | nil => rw [List.append_nil]
  | cons c more =>
    have hpos := units_pos c
    rw [units16_append, units16_cons] at hwide
    omega

/-! ## The content of a line -/

theorem lineContent_cons_of_ne {c : Char} (h : ¬(c = '\n' ∨ c = '\r')) (cs : List Char) :
    lineContent (c :: cs) = c :: lineContent cs := by
  obtain ⟨hn, hr⟩ := not_or.mp h
  simp [lineContent, hn, hr]

theorem lineContent_cons_of_break {c : Char} (h : c = '\n' ∨ c = '\r') (cs : List Char) :
    lineContent (c :: cs) = [] := by
  rcases h with rfl | rfl <;> rfl

theorem not_mem_lineContent {c : Char} (h : c = '\n' ∨ c = '\r') (line : List Char) :
    c ∉ lineContent line := by
  intro hmem
  have hc := List.mem_takeWhile_imp hmem
  rcases h with rfl | rfl <;> simp at hc

/-! ## What the walk finds -/

/-- The walk reaches the column. -/
theorem reachesColumn_columnText (line : List Char) (k : Nat) :
    ReachesColumn (lineContent line) k (columnText line k) := by
  induction line generalizing k with
  | nil =>
    rcases Nat.eq_zero_or_pos k with rfl | hk
    · exact .inl ⟨List.nil_prefix, Nat.le_refl _, fun _ _ _ => Nat.zero_le _⟩
    · exact .inr ⟨hk, rfl⟩
  | cons c cs ih =>
    rw [columnText]
    by_cases hk : k = 0
    · subst hk
      rw [if_pos (.inl rfl)]
      exact .inl ⟨List.nil_prefix, Nat.le_refl _, fun _ _ _ => Nat.zero_le _⟩
    by_cases hc : c = '\n' ∨ c = '\r'
    · rw [if_pos (.inr hc), lineContent_cons_of_break hc]
      exact .inr ⟨Nat.pos_of_ne_zero hk, rfl⟩
    · rw [if_neg (not_or.mpr ⟨hk, hc⟩), lineContent_cons_of_ne hc]
      rcases ih (k - units c) with ⟨hbeg, hreach, hfirst⟩ | ⟨hshort, heq⟩
      · refine .inl ⟨List.cons_prefix_cons.mpr ⟨rfl, hbeg⟩, ?_, fun other hother hk' => ?_⟩
        · rw [units16_cons]
          omega
        · -- a boundary in front of `c` has column zero
          cases other with
          | nil => exact absurd (Nat.le_zero.mp hk') hk
          | cons d other =>
            obtain ⟨rfl, hrest⟩ := List.cons_prefix_cons.mp hother
            rw [units16_cons] at hk'
            exact Nat.succ_le_succ (hfirst other hrest (by omega))
      · refine .inr ⟨?_, by rw [heq]⟩
        rw [units16_cons]
        omega

/-- What stands in front of a column is determined. -/
theorem ReachesColumn.unique {content before before' : List Char} {k : Nat}
    (h : ReachesColumn content k before) (h' : ReachesColumn content k before') :
    before = before' := by
  rcases h with ⟨hbeg, hreach, hfirst⟩ | ⟨hshort, rfl⟩
  · rcases h' with ⟨hbeg', hreach', hfirst'⟩ | ⟨hshort', rfl⟩
    · have hle := hfirst before' hbeg' hreach'
      exact List.prefix_of_prefix_length_le hbeg hbeg' hle |>.eq_of_length
        (Nat.le_antisymm hle (hfirst' before hbeg hreach))
    · have := units16_le_of_isPrefix hbeg
      omega
  · rcases h' with ⟨hbeg', hreach', -⟩ | ⟨-, rfl⟩
    · have := units16_le_of_isPrefix hbeg'
      omega
    · rfl

/-- **The walk along a line finds the column**, and only it. -/
theorem reachesColumn_iff {line before : List Char} {k : Nat} :
    ReachesColumn (lineContent line) k before ↔ columnText line k = before := by
  constructor
  · exact (reachesColumn_columnText line k).unique
  · rintro rfl
    exact reachesColumn_columnText line k

/-- The walk does not leave the content of the line. -/
theorem columnText_isPrefix_lineContent (line : List Char) (k : Nat) :
    columnText line k <+: lineContent line := by
  rcases reachesColumn_columnText line k with ⟨hbeg, -, -⟩ | ⟨-, heq⟩
  · exact hbeg
  · exact ⟨[], by rw [List.append_nil, heq]⟩

/-! ## How wide it is -/

variable {line shorter more : List Char} {k : Nat}

/-- Whatever is shorter than what the walk takes falls short of the column. -/
theorem units16_lt_of_columnText (h : columnText line k = shorter ++ more) (hmore : more ≠ []) :
    units16 shorter < k := by
  have hlength : 0 < more.length := List.length_pos_iff.mpr hmore
  rcases reachesColumn_columnText line k with ⟨hbeg, -, hfirst⟩ | ⟨hshort, heq⟩
  · rw [h] at hbeg hfirst
    by_contra hk
    have hle := hfirst shorter ((List.prefix_append _ _).trans hbeg) (by omega)
    rw [List.length_append] at hle
    omega
  · rw [← heq, h, units16_append] at hshort
    omega

/-- What the walk takes is no wider than the column if it ends in a character of one unit. -/
theorem units16_columnText_le {c : Char} (hlast : (columnText line k).getLast? = some c)
    (hc : units c = 1) : units16 (columnText line k) ≤ k := by
  obtain ⟨init, hinit⟩ := List.getLast?_eq_some_iff.mp hlast
  have := units16_lt_of_columnText hinit (List.cons_ne_nil c [])
  rw [hinit, units16_append, units16_cons, hc]
  exact this

/-- A column that some beginning of the content reaches leads to no place behind it. -/
theorem columnText_isPrefix_of_le {before : List Char} (hbefore : before <+: lineContent line)
    (hk : k ≤ units16 before) : columnText line k <+: before := by
  rcases reachesColumn_columnText line k with ⟨hbeg, -, hfirst⟩ | ⟨hshort, -⟩
  · exact List.prefix_of_prefix_length_le hbeg hbefore (hfirst before hbefore hk)
  · have := units16_le_of_isPrefix hbefore
    omega

/-- The end of the content, or any column past it, leads to the end of the content. -/
theorem columnText_eq_lineContent (hk : units16 (lineContent line) ≤ k) :
    columnText line k = lineContent line := by
  rcases reachesColumn_columnText line k with ⟨hbeg, hreach, -⟩ | ⟨-, heq⟩
  · exact eq_of_isPrefix_of_units16_le hbeg (hk.trans hreach)
  · exact heq

end TexCompletion
