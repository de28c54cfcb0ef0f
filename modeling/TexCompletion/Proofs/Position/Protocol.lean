import TexCompletion.Proofs.Position.Column
import TexCompletion.Proofs.Position.Point

/-!
# Positions of the protocol

In the language server protocol a line ends at `\n`, at `\r\n` or at a `\r` that stands alone
(`protocolLines`), and a position means the first boundary between characters that its column does
not reach past (`ProtocolOffset`).  The lines of a document are cut at every line break of Unicode
(`editorLines`), which are five characters more.

Each of the five makes one line more (`length_editorLines`), and without them the two notions of line
are the same.  So the offset of a position is the one of the protocol at every position of a text
exactly if the text holds none of them, which is the main statement, `followsProtocol_iff`.
-/

namespace TexCompletion

open Text

/-! ## Lines -/

namespace Text

/-- The lines of a text in the protocol, each with the break that ends it. -/
def protocolLines : List Char → List (List Char)
  | [] => [[]]
  | '\r' :: '\n' :: cs => ['\r', '\n'] :: protocolLines cs
  | c :: cs =>
    if c = '\n' ∨ c = '\r' then [c] :: protocolLines cs else prependTo c (protocolLines cs)

/-- A character that breaks a line of the document but none of the protocol: vertical tab, form feed,
next line, line separator or paragraph separator. -/
def isExtraBreak (c : Char) : Bool :=
  isLineBreak c && c ≠ '\n' && c ≠ '\r'

theorem length_prependTo {ls : List (List Char)} (h : ls ≠ []) (c : Char) :
    (prependTo c ls).length = ls.length := by
  obtain ⟨l, ls, rfl⟩ := List.exists_cons_of_ne_nil h
  rfl

theorem protocolLines_ne_nil (cs : List Char) : protocolLines cs ≠ [] := by
  fun_induction protocolLines cs with
  | case4 c cs => exact prependTo_ne_nil _ _
  | _ => simp

theorem isExtraBreak_of_eq {c : Char} (h : c = '\n' ∨ c = '\r') : isExtraBreak c = false := by
  rcases h with rfl | rfl <;> rfl

theorem isExtraBreak_of_not_isLineBreak {c : Char} (h : isLineBreak c = false) :
    isExtraBreak c = false := by
  rw [isExtraBreak, h, Bool.false_and, Bool.false_and]

/-- A line break that is none of the protocol is one of the others. -/
theorem isExtraBreak_of_ne {c : Char} (h : isLineBreak c = true) (hne : ¬(c = '\n' ∨ c = '\r')) :
    isExtraBreak c = true := by
  simp [isExtraBreak, h, not_or.mp hne]

/-- A document has one line more for each break that is none of the protocol. -/
theorem length_editorLines (cs : List Char) :
    (editorLines cs).length = (protocolLines cs).length + cs.countP isExtraBreak := by
  fun_induction editorLines cs with
  | case1 => rfl
  | case2 cs ih =>
    have hr : ¬ isExtraBreak '\r' = true := by decide
    have hn : ¬ isExtraBreak '\n' = true := by decide
    rw [protocolLines, List.length_cons, List.length_cons, ih, List.countP_cons_of_neg hr,
      List.countP_cons_of_neg hn]
    omega
  | case3 c cs hcs hc ih =>
    rw [protocolLines]
    · by_cases hne : c = '\n' ∨ c = '\r'
      · have hextra : ¬ isExtraBreak c = true := by simp [isExtraBreak_of_eq hne]
        rw [if_pos hne, List.length_cons, List.length_cons, ih, List.countP_cons_of_neg hextra]
        omega
      · rw [if_neg hne, length_prependTo (protocolLines_ne_nil cs), List.length_cons, ih,
          List.countP_cons_of_pos (isExtraBreak_of_ne hc hne)]
        omega
    · exact hcs
  | case4 c cs hcs hc ih =>
    have hne := not_feed_or_return hc
    have hextra : ¬ isExtraBreak c = true := by
      simp [isExtraBreak_of_not_isLineBreak (Bool.eq_false_iff.mpr hc)]
    rw [protocolLines]
    · rw [if_neg hne, length_prependTo (protocolLines_ne_nil cs),
        length_prependTo (editorLines_ne_nil cs), ih, List.countP_cons_of_neg hextra]
    · exact hcs

/-- Without such breaks the two notions of line are the same. -/
theorem editorLines_eq_protocolLines {cs : List Char} (h : ∀ c ∈ cs, isExtraBreak c = false) :
    editorLines cs = protocolLines cs := by
  fun_induction editorLines cs with
  | case1 => rfl
  | case2 cs ih => rw [protocolLines, ih fun c hc => h c (by simp [hc])]
  | case3 c cs hcs hc ih =>
    have hbreak : c = '\n' ∨ c = '\r' := by
      by_contra hne
      have hextra := isExtraBreak_of_ne hc hne
      rw [h c List.mem_cons_self] at hextra
      exact absurd hextra (by decide)
    rw [protocolLines]
    · rw [if_pos hbreak, ih fun d hd => h d (List.mem_cons_of_mem _ hd)]
    · exact hcs
  | case4 c cs hcs hc ih =>
    have hne := not_feed_or_return hc
    rw [protocolLines]
    · rw [if_neg hne, ih fun d hd => h d (List.mem_cons_of_mem _ hd)]
    · exact hcs

end Text

/-! ## Positions -/

namespace Position

/-- The byte offset of a position in the protocol: that of a point on the line with the number, at
the first boundary that the column does not reach past. -/
def ProtocolOffset (p : Position) (text : List Char) (offset : Nat) : Prop :=
  ∃ init line rest before,
    protocolLines text = init ++ line :: rest ∧ p.line = init.length ∧
      ReachesColumn (lineContent line) p.character before ∧
        offset = bytes8 init.flatten + bytes8 before

/-- The offset of a position is the one of the protocol, and there is none only where the protocol
has no such line. -/
def FollowsProtocol (p : Position) (text : String) : Prop :=
  (p.offset? text = none ↔ (protocolLines text.toList).length ≤ p.line) ∧
    ∀ offset, p.offset? text = some offset ↔ p.ProtocolOffset text.toList offset

/-- **When positions are those of the protocol.**  Every position of a text has the offset that the
protocol gives it exactly if the text holds no line break that the protocol does not know. -/
theorem followsProtocol_iff (text : String) :
    (∀ p : Position, p.FollowsProtocol text) ↔ ∀ c ∈ text.toList, isExtraBreak c = false := by
  constructor
  · intro h
    have hnone := (h ⟨(protocolLines text.toList).length, 0⟩).1.mpr (Nat.le_refl _)
    have hlength : (editorLines text.toList).length ≤ (protocolLines text.toList).length :=
      offset?_eq_none_iff.mp hnone
    rw [length_editorLines] at hlength
    have hcount : text.toList.countP isExtraBreak = 0 := by omega
    intro c hc
    simpa using List.countP_eq_zero.mp hcount c hc
  · intro h p
    have hlines := editorLines_eq_protocolLines h
    refine ⟨by rw [offset?_eq_none_iff, hlines], fun offset => ?_⟩
    rw [offset?_eq_some_iff, hlines]
    constructor
    · rintro ⟨init, line, rest, hline, hnumber, rfl⟩
      exact ⟨init, line, rest, _, hline, hnumber, reachesColumn_columnText _ _, rfl⟩
    · rintro ⟨init, line, rest, before, hline, hnumber, hbefore, rfl⟩
      rw [← reachesColumn_iff.mp hbefore]
      exact ⟨init, line, rest, hline, hnumber, rfl⟩

/-- A vertical tab makes a second line, where the protocol has one. -/
theorem offset?_vertical_tab :
    let text := "a\x0bb"
    let p : Position := ⟨1, 0⟩
    (protocolLines text.toList).length = 1 ∧ p.offset? text = some 2 ∧ ¬ p.FollowsProtocol text := by
  intro text p
  have hlength : (protocolLines text.toList).length = 1 := by decide
  have hoffset : p.offset? text = some 2 := by decide
  refine ⟨hlength, hoffset, fun h => ?_⟩
  have hnone : p.offset? text = none := h.1.mpr (by rw [hlength])
  rw [hoffset] at hnone
  exact absurd hnone (by decide)

end Position

end TexCompletion
