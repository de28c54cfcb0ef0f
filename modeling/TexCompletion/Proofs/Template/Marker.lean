import Mathlib.Data.List.Infix
import Mathlib.Data.List.TakeWhile
import TexCompletion.Template

/-!
# The markers of a template

`Template.tokens` reads a template from left to right and looks for a marker at every character.
This file says what its result is without saying how it is found.

A text is literal unless some `#{` in it is closed by a later brace.  Otherwise the first `#{` of
the text opens a marker, the first brace behind it closes the marker, and what follows is a template
again.  These are the two rules of `Tokenizes`, and `tokenizes_iff` says that the tokens are the one
reading by these rules.
-/

namespace TexCompletion.Template

/-- What opens a marker. -/
def opener : List Char :=
  ['#', '\x7b']

/-- No opener of the text is closed. -/
def IsLiteral (cs : List Char) : Prop :=
  ∀ before inner rest, cs ≠ before ++ opener ++ inner ++ '\x7d' :: rest

/-- The tokens of a text, by what the text is made of. -/
inductive Tokenizes : List Char → List Token → Prop
  /-- Without a marker every character stands for itself. -/
  | literal {cs : List Char} (h : IsLiteral cs) : Tokenizes cs (cs.map .char)
  /-- The first opener and the first brace behind it delimit a marker. -/
  | marker {before inner rest : List Char} {ts : List Token} (hbefore : ¬ opener <:+: before)
      (hinner : '\x7d' ∉ inner) (hrest : Tokenizes rest ts) :
      Tokenizes (before ++ opener ++ inner ++ '\x7d' :: rest)
        (before.map .char ++ .stop inner :: ts)

/-! ## One marker -/

/-- A marker is an opener and what stands up to the first brace. -/
theorem marker?_eq_some_iff {cs inner rest : List Char} :
    marker? cs = some (inner, rest) ↔
      '\x7d' ∉ inner ∧ cs = opener ++ inner ++ '\x7d' :: rest := by
  constructor
  · intro h
    unfold marker? at h
    split at h
    next cs =>
      have hcut := List.takeWhile_append_dropWhile (p := (· ≠ '\x7d')) (l := cs)
      split at h
      · simp at h
      next c r hdrop =>
        obtain ⟨rfl, rfl⟩ := Prod.mk.inj (Option.some.inj h)
        obtain rfl : c = '\x7d' := by
          have hc := List.head?_dropWhile_not (· ≠ '\x7d') cs
          rw [hdrop] at hc
          simpa using hc
        refine ⟨fun hmem => by simpa using List.mem_takeWhile_imp hmem, ?_⟩
        rw [hdrop] at hcut
        simp only [opener, List.cons_append, List.nil_append, hcut]
    next => simp at h
  · rintro ⟨hinner, rfl⟩
    have hne : ∀ c ∈ inner, decide (c ≠ '\x7d') = true := by
      intro c hc
      simpa using fun h : c = '\x7d' => hinner (h ▸ hc)
    simp only [opener, List.cons_append, List.nil_append, marker?,
      List.dropWhile_append_of_pos hne, List.takeWhile_append_of_pos hne]
    simp

/-- No marker begins where no opener does, or where the opener is not closed. -/
theorem marker?_eq_none_iff {cs : List Char} :
    marker? cs = none ↔ ∀ inner rest, cs ≠ opener ++ inner ++ '\x7d' :: rest := by
  constructor
  · rintro hnone inner rest rfl
    obtain ⟨first, more, hcut, hfirst⟩ :=
      List.eq_append_cons_of_mem (List.mem_append_right inner (List.mem_cons_self (l := rest)))
    rw [List.append_assoc, hcut, ← List.append_assoc,
      marker?_eq_some_iff.mpr ⟨hfirst, rfl⟩] at hnone
    cases hnone
  · intro h
    refine Option.eq_none_iff_forall_ne_some.mpr ?_
    rintro ⟨inner, rest⟩ hread
    exact h inner rest (marker?_eq_some_iff.mp hread).2

/-! ## All of them -/

theorem tokens_of_marker? {cs inner rest : List Char} (h : marker? cs = some (inner, rest)) :
    tokens cs = .stop inner :: tokens rest := by
  cases cs with
  | nil => simp [marker?] at h
  | cons c cs =>
    rw [tokens]
    split
    next i r hread =>
      obtain ⟨rfl, rfl⟩ := Prod.mk.inj (Option.some.inj (hread.symm.trans h))
      rfl
    next hread => exact absurd (hread.symm.trans h) (by simp)

theorem tokens_cons_of_marker? {c : Char} {cs : List Char} (h : marker? (c :: cs) = none) :
    tokens (c :: cs) = .char c :: tokens cs := by
  rw [tokens]
  split
  next hread => exact absurd (hread.symm.trans h) (by simp)
  next => rfl

/-- Text in front of the first opener is literal. -/
theorem tokens_append_opener {before : List Char} (h : ¬ opener <:+: before) (cs : List Char) :
    tokens (before ++ opener ++ cs) = before.map .char ++ tokens (opener ++ cs) := by
  induction before with
  | nil => rfl
  | cons c before ih =>
    have hc : marker? (c :: (before ++ opener ++ cs)) = none := by
      -- the opener would lie in `before`, or begin with its last character
      refine marker?_eq_none_iff.mpr fun inner rest heq => ?_
      cases before with
      | nil => simp [opener] at heq
      | cons d before =>
        simp only [opener, List.cons_append, List.cons.injEq] at heq
        obtain ⟨rfl, rfl, -⟩ := heq
        exact h ⟨[], before, rfl⟩
    have hrest : ¬ opener <:+: before := fun hin => h (List.infix_cons hin)
    rw [List.cons_append, List.cons_append, tokens_cons_of_marker? hc, ih hrest]
    rfl

/-- A text without a closed opener has no markers. -/
theorem tokens_of_isLiteral {cs : List Char} (h : IsLiteral cs) : tokens cs = cs.map .char := by
  induction cs with
  | nil => rw [tokens, List.map_nil]
  | cons c cs ih =>
    have hc : marker? (c :: cs) = none := marker?_eq_none_iff.mpr (h [])
    rw [tokens_cons_of_marker? hc, List.map_cons, ih]
    intro before inner rest heq
    exact h (c :: before) inner rest (by simp [heq])

/-- The tokens are a reading by the rules: each character that begins no marker goes in front of the
literal text or of the first marker. -/
theorem tokenizes_tokens (cs : List Char) : Tokenizes cs (tokens cs) := by
  fun_induction tokens cs with
  | case1 => exact .literal fun before inner rest => by simp
  | case2 c cs inner rest hread ih =>
    obtain ⟨hinner, heq⟩ := marker?_eq_some_iff.mp hread
    rw [heq]
    exact @Tokenizes.marker [] inner rest _ (by simp [opener]) hinner ih
  | case3 c cs hread ih =>
    generalize tokens cs = ts at ih
    cases ih with
    | literal h =>
      refine .literal fun before inner rest heq => ?_
      cases before with
      | nil => exact marker?_eq_none_iff.mp hread inner rest heq
      | cons d before =>
        simp only [List.cons_append, List.cons.injEq] at heq
        exact h before inner rest heq.2
    | @marker before inner rest ts hbefore hinner hrest =>
      refine @Tokenizes.marker (c :: before) inner rest ts (fun hin => ?_) hinner hrest
      rcases List.infix_cons_iff.mp hin with ⟨more, heq⟩ | hin
      · refine marker?_eq_none_iff.mp hread (more ++ opener ++ inner) rest ?_
        simp only [← List.cons_append, ← heq, List.append_assoc]
      · exact hbefore hin

/-- **The tokens of a template are determined by its markers.** -/
theorem tokenizes_iff {cs : List Char} {ts : List Token} : Tokenizes cs ts ↔ ts = tokens cs := by
  constructor
  · intro h
    induction h with
    | literal h => exact (tokens_of_isLiteral h).symm
    | marker hbefore hinner hrest ih =>
      rw [List.append_assoc, tokens_append_opener hbefore, ← List.append_assoc,
        tokens_of_marker? (marker?_eq_some_iff.mpr ⟨hinner, rfl⟩), ih]
  · rintro rfl
    exact tokenizes_tokens cs

end TexCompletion.Template
