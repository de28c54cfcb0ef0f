import TexCompletion.Proofs.Template.Marker

/-!
# Reading a snippet back

An editor reads a snippet from left to right.  A backslash keeps `\`, `$` and a closing brace from
being syntax.  A dollar sign and a number are a tab stop, with or without braces around the number,
and a number, a colon and a text in braces are a placeholder.  A number is the longest run of digits,
and the text of a placeholder ends at its first brace without a backslash.  `Snippet.read` is that
reader; what else a dollar sign may begin in a snippet it refuses.

`read_write` says what becomes of a template: each token comes back with its number, in order and
with nothing read into the literal text.  There is one exception.  A bare place is written `$1`, and
a digit that the template has directly behind the place becomes part of the number (`attach`).
`read_snippet_iff` is the law with its exception: the editor reads the tokens of the template exactly
if no bare place has a digit behind it.
-/

namespace TexCompletion

/-- A piece of a snippet as an editor reads it. -/
inductive Snippet.Piece where
  /-- A character that is inserted as it stands. -/
  | char (c : Char)
  /-- A numbered place with its default, which is empty for a tab stop. -/
  | stop (number : Nat) (default : List Char)
deriving DecidableEq, Repr

namespace Snippet

open Template

/-! ## The reader -/

/-- A character that a backslash keeps from being syntax. -/
def isSyntax (c : Char) : Bool :=
  c == '\\' || c == '$' || c == '\x7d'

/-- Reads a number, the longest run of digits at the start of the text. -/
def number? (cs : List Char) : Option (Nat × List Char) :=
  match cs.takeWhile Char.isDigit with
  | [] => none
  | digits => some (Nat.ofDigitChars 10 digits 0, cs.dropWhile Char.isDigit)

/-- Reads the text of a placeholder up to its first closing brace without a backslash.  Constructs
inside it are refused. -/
def default? : List Char → Option (List Char × List Char)
  | [] => none
  | '\\' :: c :: cs =>
    if isSyntax c then (default? cs).map fun (text, rest) => (c :: text, rest)
    else (default? (c :: cs)).map fun (text, rest) => ('\\' :: text, rest)
  | c :: cs =>
    if c = '\x7d' then some ([], cs)
    else if c = '$' then none
    else (default? cs).map fun (text, rest) => (c :: text, rest)

/-- Reads what stands behind the number in the braces of a place: nothing, or a default. -/
def bracedDefault? : List Char → Option (List Char × List Char)
  | '\x7d' :: cs => some ([], cs)
  | ':' :: cs => default? cs
  | _ => none

/-- Reads a place behind its dollar sign: its number and its default. -/
def place? (cs : List Char) : Option (Nat × List Char × List Char) :=
  match cs with
  | '\x7b' :: cs => (number? cs).bind fun (number, rest) => (bracedDefault? rest).map (number, ·)
  | cs => (number? cs).map fun (number, rest) => (number, [], rest)

theorem length_le_of_number? {cs rest : List Char} {n : Nat} (h : number? cs = some (n, rest)) :
    rest.length ≤ cs.length := by
  unfold number? at h
  split at h
  · simp at h
  · obtain ⟨-, rfl⟩ := Prod.mk.inj (Option.some.inj h)
    exact (List.dropWhile_sublist _).length_le

theorem length_le_of_default? {cs text rest : List Char} (h : default? cs = some (text, rest)) :
    rest.length ≤ cs.length := by
  fun_induction default? cs generalizing text with
  | case1 => simp at h
  | case2 c cs hc ih =>
    obtain ⟨⟨t, r⟩, hread, heq⟩ := Option.map_eq_some_iff.mp h
    obtain ⟨-, rfl⟩ := Prod.mk.inj heq
    have := ih hread
    simp only [List.length_cons]
    omega
  | case3 c cs hc ih =>
    obtain ⟨⟨t, r⟩, hread, heq⟩ := Option.map_eq_some_iff.mp h
    obtain ⟨-, rfl⟩ := Prod.mk.inj heq
    have := ih hread
    simp only [List.length_cons] at this ⊢
    omega
  | case4 c cs => simp_all
  | case5 => simp at h
  | case6 c cs hsyntax hclose hdollar ih =>
    obtain ⟨⟨t, r⟩, hread, heq⟩ := Option.map_eq_some_iff.mp h
    obtain ⟨-, rfl⟩ := Prod.mk.inj heq
    exact Nat.le_succ_of_le (ih hread)

theorem length_le_of_bracedDefault? {cs text rest : List Char}
    (h : bracedDefault? cs = some (text, rest)) : rest.length ≤ cs.length := by
  unfold bracedDefault? at h
  split at h
  · obtain ⟨-, rfl⟩ := Prod.mk.inj (Option.some.inj h)
    exact Nat.le_succ _
  · exact Nat.le_succ_of_le (length_le_of_default? h)
  · simp at h

theorem length_le_of_place? {cs text rest : List Char} {n : Nat}
    (h : place? cs = some (n, text, rest)) : rest.length ≤ cs.length := by
  unfold place? at h
  split at h
  next cs =>
    obtain ⟨⟨m, r⟩, hnumber, hread⟩ := Option.bind_eq_some_iff.mp h
    obtain ⟨⟨t, r'⟩, hdefault, heq⟩ := Option.map_eq_some_iff.mp hread
    obtain ⟨-, -, rfl⟩ : m = n ∧ t = text ∧ r' = rest := by simpa using heq
    have hbehind := length_le_of_number? hnumber
    have hrest := length_le_of_bracedDefault? hdefault
    exact Nat.le_succ_of_le (hrest.trans hbehind)
  next =>
    obtain ⟨⟨m, r⟩, hnumber, heq⟩ := Option.map_eq_some_iff.mp h
    obtain ⟨-, -, rfl⟩ : m = n ∧ [] = text ∧ r = rest := by simpa using heq
    exact length_le_of_number? hnumber

/-- Reads a snippet, or refuses it. -/
def read : List Char → Option (List Piece)
  | [] => some []
  | '\\' :: c :: cs =>
    if isSyntax c then (read cs).map (.char c :: ·) else (read (c :: cs)).map (.char '\\' :: ·)
  | c :: cs =>
    if c = '$' then
      match _read : place? cs with
      | some (number, default, rest) => (read rest).map (.stop number default :: ·)
      | none => none
    else (read cs).map (.char c :: ·)
termination_by cs => cs.length
decreasing_by
  · simp only [List.length_cons]
    omega
  · exact Nat.lt_succ_self _
  · exact Nat.lt_succ_of_le (length_le_of_place? _read)
  · exact Nat.lt_succ_self _

/-! ## What is written is read -/

theorem isSyntax_iff {c : Char} : isSyntax c = true ↔ c = '\\' ∨ c = '$' ∨ c = '\x7d' := by
  simp [isSyntax, or_assoc]

/-- A written character is read as that character. -/
theorem read_escape (c : Char) (rest : List Char) :
    read (escape c ++ rest) = (read rest).map (.char c :: ·) := by
  by_cases hc : c = '\\' ∨ c = '$' ∨ c = '\x7d'
  · rw [escape, if_pos hc, List.cons_append, List.singleton_append, read,
      if_pos (isSyntax_iff.mpr hc)]
  · obtain ⟨hbackslash, hdollar, -⟩ := not_or.mp hc |>.imp_right not_or.mp
    rw [escape, if_neg hc, List.singleton_append, read, if_neg hdollar]
    intro d cs h
    exact absurd h hbackslash

/-- A written default is read up to the brace behind it. -/
theorem default?_escape (text rest : List Char) :
    default? (text.flatMap escape ++ '\x7d' :: rest) = some (text, rest) := by
  induction text with
  | nil => rfl
  | cons c text ih =>
    rw [List.flatMap_cons, List.append_assoc]
    by_cases hc : c = '\\' ∨ c = '$' ∨ c = '\x7d'
    · rw [escape, if_pos hc, List.cons_append, List.singleton_append, default?,
        if_pos (isSyntax_iff.mpr hc), ih]
      rfl
    · obtain ⟨hbackslash, hdollar, hclose⟩ := not_or.mp hc |>.imp_right not_or.mp
      rw [escape, if_neg hc, List.singleton_append, default?, if_neg hclose, if_neg hdollar, ih]
      · rfl
      · intro d cs h
        exact absurd h hbackslash

/-- A dollar sign is read with the place behind it. -/
theorem read_dollar {cs text rest : List Char} {n : Nat} (h : place? cs = some (n, text, rest)) :
    read ('$' :: cs) = (read rest).map (.stop n text :: ·) := by
  rw [read, if_pos rfl]
  · split
    next m t r hread =>
      obtain ⟨rfl, rfl, rfl⟩ : m = n ∧ t = text ∧ r = rest := by simpa [h] using hread.symm
      rfl
    next hread => exact absurd (hread.symm.trans h) (by simp)
  · intro c cs hc
    exact absurd hc (by decide)

theorem isDigit_of_mem_toDigits {k : Nat} : ∀ c ∈ Nat.toDigits 10 k, c.isDigit = true :=
  fun _ hc => Nat.isDigit_of_mem_toDigits (by decide) (by decide) hc

/-- A written number is read together with the digits behind it. -/
theorem number?_toDigits (k : Nat) (rest : List Char) :
    number? (Nat.toDigits 10 k ++ rest) =
      some (Nat.ofDigitChars 10 (rest.takeWhile Char.isDigit) k, rest.dropWhile Char.isDigit) := by
  have hvalue : Nat.ofDigitChars 10 (Nat.toDigits 10 k) 0 = k :=
    Nat.ofDigitChars_toDigits (by decide) (by decide)
  rw [number?, List.takeWhile_append_of_pos isDigit_of_mem_toDigits,
    List.dropWhile_append_of_pos isDigit_of_mem_toDigits]
  split
  next hnil => exact absurd (List.append_eq_nil_iff.mp hnil).1 Nat.toDigits_ne_nil
  next => rw [Nat.ofDigitChars_append, hvalue]

/-- No number begins with an opening brace. -/
theorem toDigits_append_ne_brace (k : Nat) (rest cs : List Char) :
    Nat.toDigits 10 k ++ rest ≠ '\x7b' :: cs := by
  intro h
  cases hdigits : Nat.toDigits 10 k with
  | nil => exact Nat.toDigits_ne_nil hdigits
  | cons d ds =>
    rw [hdigits, List.cons_append, List.cons.injEq] at h
    have hd : d.isDigit = true := isDigit_of_mem_toDigits d (hdigits ▸ List.mem_cons_self)
    rw [h.1] at hd
    exact absurd hd (by decide)

/-- A written tab stop is read together with the digits behind it. -/
theorem read_tabStop (k : Nat) (rest : List Char) :
    read ('$' :: (Nat.toDigits 10 k ++ rest)) =
      (read (rest.dropWhile Char.isDigit)).map
        (.stop (Nat.ofDigitChars 10 (rest.takeWhile Char.isDigit) k) [] :: ·) := by
  have hplace : place? (Nat.toDigits 10 k ++ rest) =
      some (Nat.ofDigitChars 10 (rest.takeWhile Char.isDigit) k, [],
        rest.dropWhile Char.isDigit) := by
    rw [place?, number?_toDigits, Option.map_some]
    exact fun cs h => toDigits_append_ne_brace k rest cs h
  exact read_dollar hplace

/-- A written placeholder is read as it is meant. -/
theorem read_placeholder (k : Nat) (text rest : List Char) :
    read ('$' :: '\x7b' :: (Nat.toDigits 10 k ++ ':' :: (text.flatMap escape ++ '\x7d' :: rest))) =
      (read rest).map (.stop k text :: ·) := by
  have hplace : place? ('\x7b' :: (Nat.toDigits 10 k ++
      ':' :: (text.flatMap escape ++ '\x7d' :: rest))) = some (k, text, rest) := by
    rw [place?, number?_toDigits, Option.bind_some]
    show (bracedDefault? (':' :: (text.flatMap escape ++ '\x7d' :: rest))).map (k, ·) =
      some (k, text, rest)
    rw [bracedDefault?, default?_escape, Option.map_some]
  exact read_dollar hplace

/-! ## Digits behind a tab stop -/

/-- The digits that stand in front of other pieces. -/
def leadingDigits : List Piece → List Char
  | .char c :: ps => if c.isDigit then c :: leadingDigits ps else []
  | _ => []

/-- The pieces behind the digits in front. -/
def behindDigits : List Piece → List Piece
  | .char c :: ps => if c.isDigit then behindDigits ps else .char c :: ps
  | ps => ps

/-- Puts a piece in front of others.  Digits directly behind a tab stop go to its number. -/
def attach : Piece → List Piece → List Piece
  | .stop k [], ps => .stop (Nat.ofDigitChars 10 (leadingDigits ps) k) [] :: behindDigits ps
  | piece, ps => piece :: ps

@[simp] theorem attach_char (c : Char) (ps : List Piece) :
    attach (.char c) ps = .char c :: ps := rfl

@[simp] theorem attach_stop_cons (k : Nat) (c : Char) (cs : List Char) (ps : List Piece) :
    attach (.stop k (c :: cs)) ps = .stop k (c :: cs) :: ps := rfl

theorem attach_stop_nil (k : Nat) (ps : List Piece) :
    attach (.stop k []) ps =
      .stop (Nat.ofDigitChars 10 (leadingDigits ps) k) [] :: behindDigits ps := rfl

theorem behindDigits_of_leadingDigits {ps : List Piece} (h : leadingDigits ps = []) :
    behindDigits ps = ps := by
  unfold behindDigits
  split
  next c ps =>
    split
    next hc => simp [leadingDigits, hc] at h
    next => rfl
  next => rfl

/-- A snippet that begins with no digit is read as pieces that begin with none. -/
theorem leadingDigits_of_read {c : Char} {cs : List Char} {ps : List Piece}
    (hc : c.isDigit = false) (h : read (c :: cs) = some ps) : leadingDigits ps = [] := by
  unfold read at h
  split at h
  next heq => simp at heq
  next d cs heq =>
    split at h
    next hd =>
      obtain ⟨rest, -, rfl⟩ := Option.map_eq_some_iff.mp h
      rcases isSyntax_iff.mp hd with rfl | rfl | rfl <;> rfl
    next =>
      obtain ⟨rest, -, rfl⟩ := Option.map_eq_some_iff.mp h
      rfl
  next d cs hbackslash heq =>
    obtain ⟨rfl, rfl⟩ := List.cons.inj heq
    split at h
    next =>
      split at h
      next =>
        obtain ⟨more, -, rfl⟩ := Option.map_eq_some_iff.mp h
        rfl
      next => simp at h
    next =>
      obtain ⟨rest, -, rfl⟩ := Option.map_eq_some_iff.mp h
      simp [leadingDigits, hc]

/-- The digits at the start of a snippet are read one by one. -/
theorem read_dropWhile_isDigit {cs : List Char} {ps : List Piece} (h : read cs = some ps) :
    cs.takeWhile Char.isDigit = leadingDigits ps ∧
      read (cs.dropWhile Char.isDigit) = some (behindDigits ps) := by
  induction cs generalizing ps with
  | nil =>
    obtain rfl : [] = ps := by simpa [read] using h
    exact ⟨rfl, h⟩
  | cons c cs ih =>
    by_cases hc : c.isDigit = true
    · have hread : read (c :: cs) = (read cs).map (.char c :: ·) := by
        have hescape : escape c = [c] := by
          rw [escape, if_neg]
          rintro (rfl | rfl | rfl) <;> simp at hc
        rw [← read_escape, hescape, List.singleton_append]
      obtain ⟨rest, hrest, rfl⟩ := Option.map_eq_some_iff.mp (hread.symm.trans h)
      simpa [leadingDigits, behindDigits, hc] using ih hrest
    · have hdigits := leadingDigits_of_read (Bool.eq_false_iff.mpr hc) h
      simpa [hc, hdigits, behindDigits_of_leadingDigits hdigits] using h

/-! ## Templates -/

/-- The pieces of a template whose places are numbered from `k`. -/
def numbered (k : Nat) : List Token → List Piece
  | [] => []
  | .char c :: ts => .char c :: numbered k ts
  | .stop default :: ts => .stop k default :: numbered (k + 1) ts

/-- **What is written is read**, but for the digits behind tab stops. -/
theorem read_write (k : Nat) (ts : List Token) :
    read (write k ts) = some ((numbered k ts).foldr attach []) := by
  induction ts generalizing k with
  | nil => rw [write, read, numbered, List.foldr_nil]
  | cons t ts ih =>
    cases t with
    | char c => rw [write, read_escape, ih, Option.map_some, numbered, List.foldr_cons, attach_char]
    | stop default =>
      cases default with
      | nil =>
        -- what the reader skips behind the number are the digits that `attach` moves
        obtain ⟨hdigits, hbehind⟩ := read_dropWhile_isDigit (ih (k + 1))
        rw [write, List.cons_append, read_tabStop, hdigits, hbehind, Option.map_some, numbered,
          List.foldr_cons, attach_stop_nil]
      | cons c cs =>
        have hwrite : write k (.stop (c :: cs) :: ts) =
            '$' :: '\x7b' :: (Nat.toDigits 10 k ++
              ':' :: ((c :: cs).flatMap escape ++ '\x7d' :: write (k + 1) ts)) := by
          simp [write]
        rw [hwrite, read_placeholder, ih, Option.map_some, numbered, List.foldr_cons,
          attach_stop_cons]

/-- Further digits make a number greater. -/
theorem lt_ofDigitChars {k : Nat} (hk : 0 < k) (c : Char) (cs : List Char) :
    k < Nat.ofDigitChars 10 (c :: cs) k := by
  have hpow : 1 ≤ 10 ^ cs.length := Nat.one_le_pow _ _ (by decide)
  rw [Nat.ofDigitChars_cons, Nat.ofDigitChars_eq_ofDigitChars_zero]
  calc k < 10 * k + (c.toNat - '0'.toNat) := by omega
    _ ≤ 10 ^ cs.length * (10 * k + (c.toNat - '0'.toNat)) := Nat.le_mul_of_pos_left _ hpow
    _ ≤ _ := Nat.le_add_right _ _

/-- The pieces of a template begin with a digit only if the template does. -/
theorem leadingDigits_foldr_attach {k : Nat} {ts : List Token}
    (h : ∀ c rest, ts = .char c :: rest → c.isDigit = false) :
    leadingDigits ((numbered k ts).foldr attach []) = [] := by
  cases ts with
  | nil => rfl
  | cons t ts =>
    cases t with
    | char c => simp [numbered, leadingDigits, h c ts rfl]
    | stop default => cases default <;> rfl

/-- Nothing moves exactly if no tab stop has a digit behind it. -/
theorem foldr_attach_numbered_iff {k : Nat} (hk : 0 < k) (ts : List Token) :
    (numbered k ts).foldr attach [] = numbered k ts ↔
      ¬ ∃ c : Char, c.isDigit = true ∧ [.stop [], .char c] <:+: ts := by
  induction ts generalizing k with
  | nil => simp [numbered]
  | cons t ts ih =>
    rw [numbered.eq_def]
    cases t with
    | char c => simp [List.infix_cons_iff, ih hk]
    | stop default =>
      cases default with
      | cons c cs => simp [List.infix_cons_iff, ih (Nat.succ_pos k)]
      | nil =>
        by_cases hdigit : ∃ c rest, c.isDigit = true ∧ ts = .char c :: rest
        · -- the number of the place grows
          obtain ⟨c, rest, hc, rfl⟩ := hdigit
          have hnumber := lt_ofDigitChars hk c
            (leadingDigits ((numbered (k + 1) rest).foldr attach []))
          refine iff_of_false (fun heq => ?_) (not_not.mpr ⟨c, hc, [], rest, rfl⟩)
          simp only [numbered, List.foldr_cons, attach_char, attach_stop_nil, leadingDigits,
            if_pos hc, List.cons.injEq, Piece.stop.injEq] at heq
          exact hnumber.ne' heq.1.1
        · have hdigits : leadingDigits ((numbered (k + 1) ts).foldr attach []) = [] := by
            refine leadingDigits_foldr_attach fun c rest heq => ?_
            simpa using fun hc => hdigit ⟨c, rest, hc, heq⟩
          have hhead (c : Char) (hc : c.isDigit = true) :
              ¬ [.stop [], .char c] <+: Token.stop [] :: ts := by
            rintro ⟨rest, heq⟩
            exact hdigit ⟨c, rest, hc, by simpa using heq.symm⟩
          simp only [List.foldr_cons, attach_stop_nil, hdigits, Nat.ofDigitChars_nil,
            behindDigits_of_leadingDigits hdigits, List.cons.injEq, true_and,
            ih (Nat.succ_pos k), List.infix_cons_iff]
          refine not_congr (exists_congr fun c => and_congr_right fun hc => ?_)
          rw [or_iff_right (hhead c hc)]

end Snippet

namespace Template

/-- **An editor reads the template back.**  The tokens are the only reading of the template by its
markers.  The editor reads the snippet as the tokens with the places numbered from one, except that
the digits behind a bare place go to its number.  So it reads just the tokens exactly if no bare
place has a digit directly behind it. -/
theorem read_snippet_iff (template : String) :
    ∃ ts, (∀ other, Tokenizes template.toList other ↔ other = ts) ∧
      Snippet.read (snippet template).toList =
        some ((Snippet.numbered 1 ts).foldr Snippet.attach []) ∧
      (Snippet.read (snippet template).toList = some (Snippet.numbered 1 ts) ↔
        ¬ ∃ c : Char, c.isDigit = true ∧ [.stop [], .char c] <:+: ts) := by
  have hread : Snippet.read (snippet template).toList =
      some ((Snippet.numbered 1 (tokens template.toList)).foldr Snippet.attach []) := by
    rw [snippet, String.toList_ofList, Snippet.read_write]
  refine ⟨tokens template.toList, fun other => tokenizes_iff, hread, ?_⟩
  rw [hread, Option.some.injEq]
  exact Snippet.foldr_attach_numbered_iff Nat.one_pos _

/-- A bare place with a zero behind it becomes the tenth place, and the zero is gone. -/
theorem read_snippet_digit :
    let template := "#\x7b\x7d0"
    let ts : List Token := [.stop [], .char '0']
    Tokenizes template.toList ts ∧
      Snippet.read (snippet template).toList = some [.stop 10 []] ∧
      Snippet.read (snippet template).toList ≠ some (Snippet.numbered 1 ts) := by
  intro template ts
  have hliteral : IsLiteral ['0'] := by
    intro before inner rest heq
    have hlength := congrArg List.length heq
    simp only [opener, List.length_append, List.length_cons, List.length_nil] at hlength
    omega
  have htext : template.toList = [] ++ opener ++ [] ++ '\x7d' :: ['0'] := by decide
  have htokens : Tokenizes template.toList ts := by
    rw [htext]
    exact .marker (by simp [opener]) (by simp) (.literal hliteral)
  have hread : Snippet.read (snippet template).toList = some [.stop 10 []] := by
    rw [snippet, String.toList_ofList, ← tokenizes_iff.mp htokens, Snippet.read_write]
    rfl
  refine ⟨htokens, hread, ?_⟩
  rw [hread]
  decide

end Template

end TexCompletion
