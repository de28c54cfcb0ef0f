import TexCompletion.Proofs.Template.Snippet
import TexCompletion.Text.Word

/-!
# The template behind a snippet

A snippet still says which template it was made of.  This file reads it back, with a reader that is
stricter than an editor: it counts the places and takes behind the `k`-th dollar sign the number `k`
and nothing else.  So a digit that follows a bare place is text again, where an editor would read it
as part of the number.

* A backslash and a character stand for the character.
* The `k`-th dollar sign without a backslash stands for a marker.  Behind it is the number `k`, or a
  brace, the number `k`, a colon and the default up to the first closing brace without a backslash.
* Every other character stands for itself.

`Template.ofSnippet?` refuses whatever does not fit: a dollar sign with anything else behind it, a
closing brace that ends no default, a backslash at the end.  `snippet_lossless` says that it refuses
no snippet and gives back the template, so that literal text never passes for a place and two
templates never have one snippet.
-/

namespace TexCompletion.Template

open Text

/-! ## Tokens as template text -/

/-- A marker with a default, which is empty for a bare place. -/
def marker (default : List Char) : List Char :=
  opener ++ default ++ ['\x7d']

/-- A token as it stands in a template. -/
def Token.source : Token → List Char
  | .char c => [c]
  | .stop default => marker default

/-- The tokens of a template hold all of its text. -/
theorem flatMap_source_tokens (cs : List Char) : (tokens cs).flatMap Token.source = cs := by
  fun_induction tokens cs with
  | case1 => rfl
  | case2 c cs inner rest hread ih =>
    obtain ⟨-, heq⟩ := marker?_eq_some_iff.mp hread
    rw [List.flatMap_cons, ih, heq]
    simp [Token.source, marker]
  | case3 c cs hread ih =>
    rw [List.flatMap_cons, ih]
    rfl

/-! ## The reader -/

/-- Reads a default with the brace behind it, the first one without a backslash.  It holds no dollar
sign without a backslash. -/
def untilBrace? : List Char → Option (List Char × List Char)
  | [] => none
  | '\\' :: c :: cs => (untilBrace? cs).map fun (text, rest) => (c :: text, rest)
  | c :: cs =>
    if c = '\x7d' then some ([], cs)
    else if c = '\\' ∨ c = '$' then none
    else (untilBrace? cs).map fun (text, rest) => (c :: text, rest)

/-- Reads what stands behind the `k`-th dollar sign, and returns the default with the text behind. -/
def numberedPlace? (k : Nat) (cs : List Char) : Option (List Char × List Char) :=
  match stripWord? (Nat.toDigits 10 k) cs with
  | some rest => some ([], rest)
  | none => (stripWord? ('\x7b' :: Nat.toDigits 10 k ++ [':']) cs).bind untilBrace?

theorem length_le_of_untilBrace? {cs text rest : List Char}
    (h : untilBrace? cs = some (text, rest)) : rest.length ≤ cs.length := by
  fun_induction untilBrace? cs generalizing text with
  | case1 => simp at h
  | case2 c cs ih =>
    obtain ⟨⟨t, r⟩, hread, heq⟩ := Option.map_eq_some_iff.mp h
    obtain ⟨-, rfl⟩ := Prod.mk.inj heq
    have := ih hread
    simp only [List.length_cons]
    omega
  | case3 => simp_all
  | case4 => simp at h
  | case5 c cs _ _ _ ih =>
    obtain ⟨⟨t, r⟩, hread, heq⟩ := Option.map_eq_some_iff.mp h
    obtain ⟨-, rfl⟩ := Prod.mk.inj heq
    exact Nat.le_succ_of_le (ih hread)

theorem length_le_of_numberedPlace? {k : Nat} {cs text rest : List Char}
    (h : numberedPlace? k cs = some (text, rest)) : rest.length ≤ cs.length := by
  unfold numberedPlace? at h
  split at h
  next hnumber =>
    obtain ⟨-, rfl⟩ := Prod.mk.inj (Option.some.inj h)
    exact length_le_of_stripWord? hnumber
  next =>
    obtain ⟨behind, hword, hdefault⟩ := Option.bind_eq_some_iff.mp h
    exact (length_le_of_untilBrace? hdefault).trans (length_le_of_stripWord? hword)

/-- Reads the template back from a snippet whose next place has the number `k`. -/
def source? (k : Nat) : List Char → Option (List Char)
  | [] => some []
  | '\\' :: c :: cs => (source? k cs).map (c :: ·)
  | c :: cs =>
    if c = '$' then
      match _read : numberedPlace? k cs with
      | some (default, rest) => (source? (k + 1) rest).map (marker default ++ ·)
      | none => none
    else if c = '\\' ∨ c = '\x7d' then none
    else (source? k cs).map (c :: ·)
termination_by cs => cs.length
decreasing_by
  · simp only [List.length_cons]
    omega
  · exact Nat.lt_succ_of_le (length_le_of_numberedPlace? _read)
  · exact Nat.lt_succ_self _

/-- The template that a snippet was made of, nothing if it was made of none. -/
def ofSnippet? (snippet : String) : Option String :=
  (source? 1 snippet.toList).map String.ofList

/-! ## What is written is read back -/

/-- A written character is read back. -/
theorem source?_escape (k : Nat) (c : Char) (rest : List Char) :
    source? k (escape c ++ rest) = (source? k rest).map (c :: ·) := by
  by_cases hc : c = '\\' ∨ c = '$' ∨ c = '\x7d'
  · rw [escape, if_pos hc, List.cons_append, List.singleton_append, source?]
  · obtain ⟨hbackslash, hdollar, hclose⟩ : c ≠ '\\' ∧ c ≠ '$' ∧ c ≠ '\x7d' := by simpa using hc
    rw [escape, if_neg hc, List.singleton_append, source?, if_neg hdollar,
      if_neg (not_or.mpr ⟨hbackslash, hclose⟩)]
    intro d cs h
    exact absurd h hbackslash

/-- A written default is read back, with the brace that ends it. -/
theorem untilBrace?_escape (text rest : List Char) :
    untilBrace? (text.flatMap escape ++ '\x7d' :: rest) = some (text, rest) := by
  induction text with
  | nil => rfl
  | cons c text ih =>
    rw [List.flatMap_cons, List.append_assoc]
    by_cases hc : c = '\\' ∨ c = '$' ∨ c = '\x7d'
    · rw [escape, if_pos hc, List.cons_append, List.singleton_append, untilBrace?, ih]
      rfl
    · obtain ⟨hbackslash, hdollar, hclose⟩ : c ≠ '\\' ∧ c ≠ '$' ∧ c ≠ '\x7d' := by simpa using hc
      rw [escape, if_neg hc, List.singleton_append, untilBrace?, if_neg hclose,
        if_neg (not_or.mpr ⟨hbackslash, hdollar⟩), ih]
      · rfl
      · intro d cs h
        exact absurd h hbackslash

/-- Behind the dollar sign of a bare place its number is read, and no more than that. -/
theorem numberedPlace?_number (k : Nat) (rest : List Char) :
    numberedPlace? k (Nat.toDigits 10 k ++ rest) = some ([], rest) := by
  rw [numberedPlace?, stripWord?_eq_some_iff.mpr rfl]

/-- Behind the dollar sign of a place with a default the default is read. -/
theorem numberedPlace?_default (k : Nat) (text rest : List Char) :
    numberedPlace? k ('\x7b' :: Nat.toDigits 10 k ++ ':' :: (text.flatMap escape ++ '\x7d' :: rest)) =
      some (text, rest) := by
  have hword : '\x7b' :: Nat.toDigits 10 k ++ ':' :: (text.flatMap escape ++ '\x7d' :: rest) =
      '\x7b' :: Nat.toDigits 10 k ++ [':'] ++ (text.flatMap escape ++ '\x7d' :: rest) := by
    simp
  have hnumber : stripWord? (Nat.toDigits 10 k)
      ('\x7b' :: Nat.toDigits 10 k ++ ':' :: (text.flatMap escape ++ '\x7d' :: rest)) = none := by
    -- a number does not begin with a brace
    refine Option.eq_none_iff_forall_ne_some.mpr fun behind h => ?_
    exact Snippet.toDigits_append_ne_brace k behind _ (stripWord?_eq_some_iff.mp h).symm
  rw [numberedPlace?, hnumber, hword, stripWord?_eq_some_iff.mpr rfl]
  exact untilBrace?_escape text rest

/-- A written place is read back as its marker. -/
theorem source?_dollar {k : Nat} {cs default rest : List Char}
    (h : numberedPlace? k cs = some (default, rest)) :
    source? k ('$' :: cs) = (source? (k + 1) rest).map (marker default ++ ·) := by
  rw [source?, if_pos rfl]
  · split
    next hread =>
      obtain ⟨rfl, rfl⟩ := Prod.mk.inj (Option.some.inj (hread.symm.trans h))
      rfl
    next hread => exact absurd (hread.symm.trans h) (by simp)
  · intro c cs hc
    exact absurd hc (by decide)

/-- Written tokens are read back as the text that they stand for in the template. -/
theorem source?_write (k : Nat) (ts : List Token) :
    source? k (write k ts) = some (ts.flatMap Token.source) := by
  induction ts generalizing k with
  | nil => rw [write, source?, List.flatMap_nil]
  | cons t ts ih =>
    rw [List.flatMap_cons]
    cases t with
    | char c =>
      rw [write, source?_escape, ih]
      rfl
    | stop default =>
      cases default with
      | nil =>
        rw [write, List.cons_append, source?_dollar (numberedPlace?_number k _), ih]
        rfl
      | cons c cs =>
        have hwrite : write k (.stop (c :: cs) :: ts) =
            '$' :: ('\x7b' :: Nat.toDigits 10 k ++
              ':' :: ((c :: cs).flatMap escape ++ '\x7d' :: write (k + 1) ts)) := by
          simp [write]
        rw [hwrite, source?_dollar (numberedPlace?_default k _ _), ih]
        rfl

/-- **A snippet gives its template back.**  It is read without an error: every dollar sign without a
backslash has the number of its place behind it, and every brace without a backslash ends a default.
What is read is the template, so no two templates have the same snippet. -/
theorem snippet_lossless :
    (∀ template, ofSnippet? (snippet template) = some template) ∧ Function.Injective snippet := by
  have hread (template : String) : ofSnippet? (snippet template) = some template := by
    rw [ofSnippet?, snippet, String.toList_ofList, source?_write, flatMap_source_tokens,
      Option.map_some, String.ofList_toList]
  refine ⟨hread, fun a b h => ?_⟩
  have hsame : some a = some b := by rw [← hread a, ← hread b, h]
  exact Option.some.inj hsame

end TexCompletion.Template
