import TexCompletion.Proofs.Position.Point
import TexCompletion.Proofs.Position.Protocol

/-!
# Columns past the end of a line

A column past the end of a line should lead to the end of what stands on the line, in front of its
break, whichever break it is.  The walk along the line stops in front of `\n` and `\r` only.  At one
of the five other breaks (`isExtraBreak`) it goes on, and takes the break for the last character of
the line.

So the cursor stays on its line at every column, unless one of the five ends the line and the column
is past what stands on it; then the cursor is at the start of the next line.  The main statement is
`staysOnLine_iff`.
-/

namespace TexCompletion

open Text

variable {cs line : List Char} {c : Char}

/-! ## The content of a line and its break -/

theorem units_of_isLineBreak (h : isLineBreak c = true) : units c = 1 := by
  refine if_pos ?_
  simp only [isLineBreak, Bool.or_eq_true, Bool.and_eq_true, decide_eq_true_eq, beq_iff_eq] at h
  omega

theorem isLineBreak_of_isExtraBreak (h : isExtraBreak c = true) :
    isLineBreak c = true ∧ ¬(c = '\n' ∨ c = '\r') := by
  simpa [isExtraBreak, and_assoc] using h

/-- The end of what stands on a line is at the column that it is wide. -/
theorem columnText_unbroken (line : List Char) :
    columnText line (units16 (unbroken line)) = unbroken line := by
  obtain ⟨ending, hending⟩ := unbroken_isPrefix line
  have hnone : ∀ c ∈ unbroken line, isLineBreak c = false := fun _ => isLineBreak_of_mem_unbroken
  have hwalk := columnText_append ending hnone
  rwa [hending] at hwalk

theorem unbroken_isPrefix_lineContent (line : List Char) : unbroken line <+: lineContent line := by
  rw [← columnText_unbroken]
  exact columnText_isPrefix_lineContent _ _

/-- Without the five, the content ends where the first break of any kind is. -/
theorem lineContent_eq_unbroken (h : ∀ c ∈ line, isExtraBreak c = false) :
    lineContent line = unbroken line := by
  induction line with
  | nil => rfl
  | cons c cs ih =>
    obtain ⟨hc, hcs⟩ := List.forall_mem_cons.mp h
    by_cases hstop : c = '\n' ∨ c = '\r'
    · rw [lineContent_cons_of_break hstop]
      rcases hstop with rfl | rfl <;> rfl
    · have hbreak : isLineBreak c = false := by
        by_contra hbreak
        rw [isExtraBreak_of_ne (Bool.not_eq_false _ ▸ hbreak) hstop] at hc
        exact absurd hc (by decide)
      rw [lineContent_cons_of_ne hstop, unbroken_cons_of_not_isLineBreak hbreak, ih hcs]

/-- One of the five on a line is the break of the line, and the content goes on over it. -/
theorem lineContent_of_isExtraBreak (hline : line ∈ editorLines cs) (hc : c ∈ line)
    (hextra : isExtraBreak c = true) : lineContent line = line ∧ line = unbroken line ++ [c] := by
  obtain ⟨hbreak, hstop⟩ := isLineBreak_of_isExtraBreak hextra
  obtain ⟨hn, hr⟩ := not_or.mp hstop
  obtain ⟨ending, hsplit, hending⟩ := exists_ending hline
  have hmem : c ∈ ending := by
    rw [hsplit] at hc
    refine (List.mem_append.mp hc).resolve_left fun hunbroken => ?_
    rw [isLineBreak_of_mem_unbroken hunbroken] at hbreak
    exact absurd hbreak (by decide)
  obtain rfl : ending = [c] := by
    rcases hending with rfl | rfl | ⟨d, -, rfl⟩
    · cases hmem
    · simp [hn, hr] at hmem
    · rw [List.mem_singleton.mp hmem]
  refine ⟨List.takeWhile_eq_self_iff.mpr fun d hd => ?_, hsplit⟩
  rw [hsplit] at hd
  rcases List.mem_append.mp hd with hd | hd
  · obtain ⟨hdn, hdr⟩ : d ≠ '\n' ∧ d ≠ '\r' :=
      not_or.mp (not_feed_or_return (Bool.eq_false_iff.mp (isLineBreak_of_mem_unbroken hd)))
    simp [hdn, hdr]
  · rw [List.mem_singleton.mp hd]
    simp [hn, hr]

/-! ## The cursor -/

namespace Position

/-- The cursor is on the line of the position, in what stands in front of the break or at its end; it
is at the end if the column is there or past it; and there is no break in front of it on the line. -/
def StaysOnLine (p : Position) (text : String) : Prop :=
  ∃ line offset before,
    (editorLines text.toList)[p.line]? = some line ∧
      p.offset? text = some offset ∧ p.before? text = some before ∧
        lineStart text.toList p.line ≤ offset ∧
          offset ≤ lineStart text.toList p.line + bytes8 (unbroken line) ∧
            (units16 (unbroken line) ≤ p.character →
              offset = lineStart text.toList p.line + bytes8 (unbroken line)) ∧
              ∀ c ∈ before.toList, isLineBreak c = false

/-- The cursor stays on its line if the walk does not go over the break. -/
theorem staysOnLine_of_isPrefix {p : Position} {text : String}
    (h : (editorLines text.toList)[p.line]? = some line)
    (hwalk : columnText line p.character <+: unbroken line)
    (hend : units16 (unbroken line) ≤ p.character →
      columnText line p.character = unbroken line) : p.StaysOnLine text := by
  obtain ⟨hoffset, hbefore⟩ := readings_of_line h
  refine ⟨line, _, _, h, hoffset, hbefore, Nat.le_add_right _ _,
    Nat.add_le_add_left (bytes8_le_of_isPrefix hwalk) _, fun hk => by rw [hend hk], ?_⟩
  intro c hc
  rw [String.toList_ofList] at hc
  exact isLineBreak_of_mem_unbroken (hwalk.subset hc)

/-- Past what stands on a line that one of the five ends, the cursor is behind the break. -/
theorem readings_past_break {p : Position} {text : String}
    (h : (editorLines text.toList)[p.line]? = some line)
    (hpast : ¬((∀ c ∈ line, isExtraBreak c = false) ∨ p.character ≤ units16 (unbroken line))) :
    (∃ c ∈ line, isLineBreak c = true) ∧
      p.offset? text = some (lineStart text.toList (p.line + 1)) ∧
        p.before? text = some (String.ofList line) := by
  obtain ⟨hextra, hwide⟩ := not_or.mp hpast
  simp only [not_forall, Bool.not_eq_false] at hextra
  obtain ⟨c, hc, hextra⟩ := hextra
  obtain ⟨hcontent, hsplit⟩ := lineContent_of_isExtraBreak (List.mem_of_getElem? h) hc hextra
  obtain ⟨hbreak, -⟩ := isLineBreak_of_isExtraBreak hextra
  have hwalk : columnText line p.character = line := by
    -- the break takes one unit, so the line with its break is no wider than the column
    have hle : units16 (lineContent line) ≤ p.character := by
      rw [hcontent, hsplit, units16_append, units16_cons, units16_nil, units_of_isLineBreak hbreak]
      exact Nat.lt_of_not_le hwide
    rw [columnText_eq_lineContent hle, hcontent]
  have hreadings := readings_of_line h
  rw [hwalk, ← lineStart_succ h] at hreadings
  exact ⟨⟨c, hc, hbreak⟩, hreadings⟩

/-- At a position of a line the cursor stays on it exactly if none of the five is on the line or the
column is not past what stands on it. -/
theorem staysOnLine_iff_of_line {p : Position} {text : String}
    (h : (editorLines text.toList)[p.line]? = some line) :
    p.StaysOnLine text ↔
      (∀ c ∈ line, isExtraBreak c = false) ∨ p.character ≤ units16 (unbroken line) := by
  constructor
  · rintro ⟨-, -, before, -, -, hbefore, -, -, -, hnone⟩
    by_contra hpast
    obtain ⟨⟨c, hc, hbreak⟩, -, hline⟩ := readings_past_break h hpast
    obtain rfl := Option.some.inj (hbefore.symm.trans hline)
    rw [hnone c (by rwa [String.toList_ofList])] at hbreak
    exact absurd hbreak (by decide)
  · rintro (hnone | hle)
    · have hcontent := lineContent_eq_unbroken hnone
      refine staysOnLine_of_isPrefix h ?_ fun hk => ?_
      · exact hcontent ▸ columnText_isPrefix_lineContent line p.character
      · rw [columnText_eq_lineContent (hcontent ▸ hk), hcontent]
    · refine staysOnLine_of_isPrefix h ?_ fun hk => ?_
      · exact columnText_isPrefix_of_le (unbroken_isPrefix_lineContent line) hle
      · rw [Nat.le_antisymm hle hk, columnText_unbroken]

/-- **Where the cursor stays on its line.**  At a position with a line, it does exactly if none of the
five breaks is on the line or the column is not past what stands on it.  Otherwise the break is in
front of the cursor, which is at the start of the next line.  So the cursor stays on its line at every
position of a text exactly if the text holds none of the five. -/
theorem staysOnLine_iff (text : String) :
    (∀ (p : Position) (line : List Char), (editorLines text.toList)[p.line]? = some line →
      (p.StaysOnLine text ↔
        (∀ c ∈ line, isExtraBreak c = false) ∨ p.character ≤ units16 (unbroken line)) ∧
      (¬ p.StaysOnLine text →
        p.offset? text = some (lineStart text.toList (p.line + 1)) ∧
          p.before? text = some (String.ofList line))) ∧
    ((∀ p : Position, p.line < (editorLines text.toList).length → p.StaysOnLine text) ↔
      ∀ c ∈ text.toList, isExtraBreak c = false) := by
  refine ⟨fun p line h => ⟨staysOnLine_iff_of_line h, fun hleaves => ?_⟩, ?_, ?_⟩
  · rw [staysOnLine_iff_of_line h] at hleaves
    exact (readings_past_break h hleaves).2
  · intro hstays c hc
    rw [← flatten_editorLines text.toList] at hc
    obtain ⟨line, hline, hc⟩ := List.mem_flatten.mp hc
    obtain ⟨i, hi, rfl⟩ := List.mem_iff_getElem.mp hline
    -- one column past what stands on the line
    let p : Position := ⟨i, units16 (unbroken (editorLines text.toList)[i]) + 1⟩
    have hget : (editorLines text.toList)[p.line]? = some (editorLines text.toList)[i] :=
      List.getElem?_eq_getElem hi
    rcases (staysOnLine_iff_of_line hget).mp (hstays p hi) with hnone | hle
    · exact hnone c hc
    · exact absurd hle (Nat.not_succ_le_self _)
  · intro hnone p hp
    have hget := List.getElem?_eq_getElem hp
    refine (staysOnLine_iff_of_line hget).mpr (.inl fun c hc => hnone c ?_)
    rw [← flatten_editorLines text.toList]
    exact List.mem_flatten_of_mem (List.getElem_mem hp) hc

/-- A column far past `a` leads behind the vertical tab, to the second line. -/
theorem leaves_line_at_vertical_tab :
    let text := "a\x0bb"
    let p : Position := ⟨0, 9⟩
    (editorLines text.toList)[p.line]? = some ['a', '\x0b'] ∧
      lineStart text.toList 0 + bytes8 (unbroken ['a', '\x0b']) = 1 ∧ lineStart text.toList 1 = 2 ∧
        p.offset? text = some 2 ∧ p.before? text = some "a\x0b" ∧
          isLineBreak '\x0b' = true ∧ ¬ p.StaysOnLine text := by
  intro text p
  have hoffset : p.offset? text = some 2 := by decide
  have hbefore : p.before? text = some "a\x0b" := by decide
  refine ⟨by decide, by decide, by decide, hoffset, hbefore, by decide, ?_⟩
  rintro ⟨-, -, before, -, -, hbefore', -, -, -, hnone⟩
  obtain rfl := Option.some.inj (hbefore'.symm.trans hbefore)
  exact absurd (hnone '\x0b' (by decide)) (by decide)

end Position

end TexCompletion
