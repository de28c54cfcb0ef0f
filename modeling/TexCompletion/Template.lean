/-!
# Templates and snippets

A package command is contributed as a template: text in which `#{}` marks a place to fill in
and `#{text}` a place with a default.  An editor wants the same in its own snippet syntax,
where the places are numbered, `$1` or `${1:text}`, and a backslash keeps a character from
being read as syntax.

`Template.tokens` takes a template apart and `Template.snippet` writes the tokens as a snippet.
-/

namespace TexCompletion

namespace Template

/-- A piece of a template. -/
inductive Token where
  /-- A character that is inserted as it stands. -/
  | char (c : Char)
  /-- A place to fill in, with its default, which is empty for a bare place. -/
  | stop (default : List Char)
deriving DecidableEq, Repr

/-- Reads a marker at the start of the text.  It ends at the first closing brace, and without one
it is no marker. -/
def marker? : List Char → Option (List Char × List Char)
  | '#' :: '\x7b' :: cs =>
    match cs.dropWhile (· ≠ '\x7d') with
    | [] => none
    | _ :: rest => some (cs.takeWhile (· ≠ '\x7d'), rest)
  | _ => none

theorem length_lt_of_marker? {cs inner rest : List Char}
    (h : marker? cs = some (inner, rest)) : rest.length < cs.length := by
  unfold marker? at h
  split at h
  next cs =>
    split at h
    · simp at h
    next c r hd =>
      simp only [Option.some.injEq, Prod.mk.injEq] at h
      obtain ⟨-, rfl⟩ := h
      have := (List.dropWhile_sublist (· ≠ '\x7d') (l := cs)).length_le
      rw [hd] at this
      simp only [List.length_cons] at this ⊢
      omega
  next => simp at h

/-- The tokens of a template, read from left to right. -/
def tokens : List Char → List Token
  | [] => []
  | c :: cs =>
    match _read : marker? (c :: cs) with
    | some (inner, rest) => .stop inner :: tokens rest
    | none => .char c :: tokens cs
termination_by cs => cs.length
decreasing_by
  · exact length_lt_of_marker? _read
  · exact Nat.lt_succ_self _

/-- A character as it is written in a snippet, where `\`, `$` and a closing brace are syntax. -/
def escape (c : Char) : List Char :=
  if c = '\\' ∨ c = '$' ∨ c = '\x7d' then ['\\', c] else [c]

/-- Writes tokens in snippet syntax, the places numbered from `k`. -/
def write (k : Nat) : List Token → List Char
  | [] => []
  | .char c :: ts => escape c ++ write k ts
  | .stop [] :: ts => '$' :: Nat.toDigits 10 k ++ write (k + 1) ts
  | .stop default :: ts =>
    '$' :: '\x7b' :: Nat.toDigits 10 k ++ ':' :: default.flatMap escape ++
      '\x7d' :: write (k + 1) ts

/-- The snippet of a template: its places numbered from one, the rest kept literally. -/
def snippet (template : String) : String :=
  String.ofList (write 1 (tokens template.toList))

end Template

end TexCompletion
