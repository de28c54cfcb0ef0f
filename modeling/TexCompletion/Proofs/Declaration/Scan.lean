import Mathlib.Data.List.TakeWhile
import TexCompletion.Declaration
import TexCompletion.Proofs.Text.Cut

/-!
# What a scan reports

A scan collects the names declared on the lines of a text, all but one.  Three facts about it carry
the rest of the theory.

* **Where a name comes from** (`mem_scanChars`): from a line that is not the excluded one.
* **What a name can be** (`isName_of_mem_namesIn`): a word of letters, digits and underscores.  A
  declaration of such a word, standing alone on its line, is found (`namesIn_declaration`).
* **The excluded line does not count** (`scanChars_cut`): if the text is cut anywhere on that line,
  the report is what stands on the lines before and on the lines after, and nothing else.
-/

namespace TexCompletion.Declaration

open Text

/-! ## Where a name comes from -/

/-- A name is reported exactly if it is declared on some line other than the excluded one. -/
theorem mem_scanChars {name text : List Char} {excluded : Nat} :
    name ∈ scanChars text excluded ↔
      ∃ i line, (lines text)[i]? = some line ∧ i + 1 ≠ excluded ∧ name ∈ namesIn line := by
  simp only [scanChars, List.mem_flatMap, Prod.exists]
  constructor
  · rintro ⟨line, number, hline, hname⟩
    obtain ⟨hnumber, hget⟩ := List.mem_zipIdx_iff_le_and_getElem?_sub.mp hline
    split at hname
    · simp at hname
    next hne =>
      refine ⟨number - 1, line, hget, ?_, hname⟩
      omega
  · rintro ⟨i, line, hget, hne, hname⟩
    refine ⟨line, i + 1, List.mem_zipIdx_iff_le_and_getElem?_sub.mpr ⟨by omega, hget⟩, ?_⟩
    rwa [if_neg hne]

/-! ## What a name can be -/

/-- A text that a declaration can name. -/
def IsName (name : List Char) : Prop :=
  name ≠ [] ∧ ∀ c ∈ name, isWordChar c = true

instance (name : List Char) : Decidable (IsName name) :=
  decidable_of_iff (name ≠ [] ∧ name.all isWordChar = true) (by rw [IsName, List.all_eq_true])

theorem isName_of_braced? {cs name rest : List Char} (h : braced? cs = some (name, rest)) :
    IsName name := by
  unfold braced? at h
  split at h
  next cs =>
    split at h
    next c n r ht hd =>
      obtain ⟨rfl, -⟩ := Prod.mk.inj (Option.some.inj h)
      refine ⟨by simp, fun d hd => ?_⟩
      rw [← ht] at hd
      exact List.mem_takeWhile_imp hd
    next => simp at h
  next => simp at h

theorem isName_of_closeOptions? {cs name rest : List Char}
    (h : closeOptions? cs = some (name, rest)) : IsName name := by
  induction cs with
  | nil => simp [closeOptions?] at h
  | cons c cs ih =>
    rw [closeOptions?] at h
    split at h
    next found hb =>
      split at hb
      · exact isName_of_braced? (hb.trans h)
      · simp at hb
    next => exact ih h

theorem isName_of_read? {cs name rest : List Char} (h : read? cs = some (name, rest)) :
    IsName name := by
  obtain ⟨argument, -, ha⟩ := Option.bind_eq_some_iff.mp h
  unfold argument? at ha
  split at ha
  · exact isName_of_closeOptions? ha
  · exact isName_of_braced? ha

/-- Whatever a line declares is a name. -/
theorem isName_of_mem_namesIn {line name : List Char} (h : name ∈ namesIn line) : IsName name := by
  fun_induction namesIn line with
  | case1 => simp at h
  | case2 c cs found rest hread ih =>
    rcases List.mem_cons.mp h with rfl | h
    · exact isName_of_read? hread
    · exact ih h
  | case3 c cs hread ih => exact ih h

/-- A name in braces is read up to the closing brace. -/
theorem braced?_of_isName {name : List Char} (h : IsName name) (rest : List Char) :
    braced? ('\x7b' :: (name ++ '\x7d' :: rest)) = some (name, rest) := by
  obtain ⟨c, cs, rfl⟩ := List.exists_cons_of_ne_nil h.1
  have hclose : isWordChar '\x7d' = false := by decide
  simp only [braced?, List.takeWhile_append_of_pos h.2, List.dropWhile_append_of_pos h.2]
  simp [hclose]

/-- Reading a line goes on behind a declaration. -/
theorem namesIn_of_read? {cs name rest : List Char} (h : read? cs = some (name, rest)) :
    namesIn cs = name :: namesIn rest := by
  cases cs with
  | nil => exact absurd (length_lt_of_read? h) (by simp)
  | cons c cs =>
    rw [namesIn]
    split
    next found r hr =>
      obtain ⟨rfl, rfl⟩ := Prod.mk.inj (Option.some.inj (hr.symm.trans h))
      rfl
    next hr => exact absurd (hr.symm.trans h) (by simp)

/-- A line that is the declaration of a name declares that name. -/
theorem namesIn_declaration {name : List Char} (h : IsName name) :
    namesIn (keyword ++ '\x7b' :: (name ++ ['\x7d'])) = [name] := by
  have hread : read? (keyword ++ '\x7b' :: (name ++ ['\x7d'])) = some (name, []) := by
    rw [read?, stripWord?_eq_some_iff.mpr rfl]
    exact braced?_of_isName h []
  rw [namesIn_of_read? hread, namesIn]

/-- The line declares a package and has no other declaration, complete or not. -/
def DeclaresOnly (line name : List Char) : Prop :=
  IsName name ∧ ∃ before after,
    line = before ++ keyword ++ '\x7b' :: (name ++ '\x7d' :: after) ∧
      ∀ other rest, line = other ++ keyword ++ rest → other = before

/-- Reading a line goes on behind a character where no declaration begins. -/
theorem namesIn_cons_of_read? {c : Char} {cs : List Char} (h : read? (c :: cs) = none) :
    namesIn (c :: cs) = namesIn cs := by
  rw [namesIn]
  split
  next hread => exact absurd (hread.symm.trans h) (by simp)
  next => rfl

/-- A declaration that stands alone on its line is found. -/
theorem mem_namesIn_of_declaresOnly {line name : List Char} (h : DeclaresOnly line name) :
    name ∈ namesIn line := by
  obtain ⟨hname, before, after, rfl, honly⟩ := h
  induction before with
  | nil =>
    have hread : read? (keyword ++ '\x7b' :: (name ++ '\x7d' :: after)) = some (name, after) := by
      rw [read?, stripWord?_eq_some_iff.mpr rfl]
      exact braced?_of_isName hname after
    rw [List.nil_append, namesIn_of_read? hread]
    exact List.mem_cons_self
  | cons c before ih =>
    have hread : read? (c :: (before ++ keyword ++ '\x7b' :: (name ++ '\x7d' :: after))) = none := by
      refine Option.bind_eq_none_iff.mpr fun rest hrest => ?_
      exact absurd (honly [] rest (stripWord?_eq_some_iff.mp hrest)) (by simp)
    rw [List.cons_append, List.cons_append, namesIn_cons_of_read? hread]
    refine ih fun other rest heq => ?_
    have hother := honly (c :: other) rest (by rw [List.cons_append, List.cons_append, heq]; rfl)
    exact (List.cons.inj hother).2

/-! ## The excluded line -/

/-- The lines of a text, from its pieces between line feeds. -/
def linesOf (ps : List (List Char)) : List (List Char) :=
  ps.dropLast.map dropReturn ++ ps.getLast?.toList.filter (· ≠ [])

theorem lines_eq_linesOf (cs : List Char) : lines cs = linesOf (pieces cs) := rfl

theorem linesOf_append {ps : List (List Char)} (h : ps ≠ []) (init : List (List Char)) :
    linesOf (init ++ ps) = init.map dropReturn ++ linesOf ps := by
  rw [linesOf, linesOf, List.dropLast_append_of_ne_nil h, List.getLast?_append_of_ne_nil _ h,
    List.map_append, List.append_assoc]

/-- The first piece makes one line, or none if it is empty and the last. -/
theorem linesOf_cons (p : List Char) (ps : List (List Char)) :
    ∃ first : List (List Char), first.length ≤ 1 ∧ (ps ≠ [] → first.length = 1) ∧
      linesOf (p :: ps) = first ++ linesOf ps := by
  cases ps with
  | nil => exact ⟨[p].filter (· ≠ []), List.length_filter_le _ _, by simp, by simp [linesOf]⟩
  | cons q qs =>
    refine ⟨[dropReturn p], le_rfl, fun _ => rfl, ?_⟩
    exact linesOf_append (by simp) [p]

/-- The names declared on the lines of a list that starts with line `first`, all but one. -/
def namesBeside (first excluded : Nat) (ls : List (List Char)) : List (List Char) :=
  (ls.zipIdx first).flatMap fun (line, number) => if number = excluded then [] else namesIn line

theorem namesBeside_append (first excluded : Nat) (ls ms : List (List Char)) :
    namesBeside first excluded (ls ++ ms) =
      namesBeside first excluded ls ++ namesBeside (first + ls.length) excluded ms := by
  rw [namesBeside, List.zipIdx_append, List.flatMap_append]
  rfl

/-- If the excluded line is not in the list, all lines count. -/
theorem namesBeside_of_ne {first excluded : Nat} {ls : List (List Char)}
    (h : ∀ i < ls.length, first + i ≠ excluded) :
    namesBeside first excluded ls = ls.flatMap namesIn := by
  induction ls generalizing first with
  | nil => rfl
  | cons l ls ih =>
    have htail : ∀ i < ls.length, first + 1 + i ≠ excluded := fun i hi => by
      have := h (i + 1) (by simpa using hi)
      omega
    have hhead : first ≠ excluded := h 0 (by simp)
    rw [← List.singleton_append, namesBeside_append, List.flatMap_append]
    congr 1
    · simp [namesBeside, hhead]
    · exact ih htail

/-- **The excluded line does not count.**  The text is cut somewhere on the excluded line: what is
reported stands on the lines before the one that the first half ends in, and on the lines after the
one that the second half begins with. -/
theorem scanChars_cut (left right : List Char) :
    scanChars (left ++ right) (left.count '\n' + 1) =
      ((pieces left).dropLast.map dropReturn).flatMap namesIn ++
        (linesOf (pieces right).tail).flatMap namesIn := by
  have hlength : (pieces left).dropLast.length = left.count '\n' := by
    rw [List.length_dropLast, length_pieces, Nat.add_sub_cancel]
  obtain ⟨first, hone, hfull, hfirst⟩ :=
    linesOf_cons ((pieces left).getLast?.getD [] ++ (pieces right).head?.getD [])
      (pieces right).tail
  have hlines : lines (left ++ right) =
      (pieces left).dropLast.map dropReturn ++ (first ++ linesOf (pieces right).tail) := by
    rw [lines_eq_linesOf, pieces_append, glue, linesOf_append (by simp), hfirst]
  have hbefore : namesBeside 1 (left.count '\n' + 1) ((pieces left).dropLast.map dropReturn) =
      ((pieces left).dropLast.map dropReturn).flatMap namesIn :=
    namesBeside_of_ne fun i hi => by
      rw [List.length_map, hlength] at hi
      omega
  have hcursor : namesBeside (1 + left.count '\n') (left.count '\n' + 1) first = [] := by
    rcases first with _ | ⟨l, _ | ⟨m, ms⟩⟩
    · rfl
    · simp [namesBeside, Nat.add_comm]
    · simp at hone
  have hafter : namesBeside (1 + left.count '\n' + first.length) (left.count '\n' + 1)
      (linesOf (pieces right).tail) = (linesOf (pieces right).tail).flatMap namesIn :=
    namesBeside_of_ne fun i hi => by
      have htail : (pieces right).tail ≠ [] := by
        rintro h
        rw [h] at hi
        simp [linesOf] at hi
      have := hfull htail
      omega
  calc scanChars (left ++ right) (left.count '\n' + 1)
      = namesBeside 1 (left.count '\n' + 1) (lines (left ++ right)) := rfl
    _ = _ := by
      rw [hlines, namesBeside_append, namesBeside_append, hbefore, List.length_map, hlength,
        hcursor, hafter, List.nil_append]

end TexCompletion.Declaration
