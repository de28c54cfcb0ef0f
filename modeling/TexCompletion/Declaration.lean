import TexCompletion.Text.Lines
import TexCompletion.Text.Word

/-!
# Package declarations of a document

Which packages a document already loads.  A declaration is `\usepackage`, options in brackets if
there are any, and one name of letters, digits and underscores in braces.  Several may share a
line, and a comment sign does not hide one.  The options are at least one character long and end
at the first closing bracket that a name in braces follows.

`Declaration.namesIn` reads one line from left to right; `Declaration.scan` collects the names of
all lines but one.
-/

namespace TexCompletion

namespace Declaration

open Text

/-- The command that loads a package. -/
def keyword : List Char :=
  "\\usepackage".toList

/-- A character of the name in a declaration. -/
def isWordChar (c : Char) : Bool :=
  c.isAlphanum || c == '_'

/-- Reads a name in braces and returns it with the text after the closing brace. -/
def braced? : List Char → Option (List Char × List Char)
  | '\x7b' :: cs =>
    match cs.takeWhile isWordChar, cs.dropWhile isWordChar with
    | c :: name, '\x7d' :: rest => some (c :: name, rest)
    | _, _ => none
  | _ => none

/-- Reads on inside the options, up to the first closing bracket that a name in braces follows. -/
def closeOptions? : List Char → Option (List Char × List Char)
  | [] => none
  | c :: cs =>
    match if c = ']' then braced? cs else none with
    | some found => some found
    | none => closeOptions? cs

/-- Reads what may follow `\usepackage`: options that are not empty, if any, and the name. -/
def argument? : List Char → Option (List Char × List Char)
  | '[' :: _ :: cs => closeOptions? cs
  | cs => braced? cs

/-- Reads one declaration at the start of the text. -/
def read? (cs : List Char) : Option (List Char × List Char) :=
  (stripWord? keyword cs).bind argument?

/-! ### What is read is consumed -/

theorem length_lt_of_braced? {cs name rest : List Char} (h : braced? cs = some (name, rest)) :
    rest.length < cs.length := by
  unfold braced? at h
  split at h
  next cs =>
    split at h
    next c n r _ hd =>
      simp only [Option.some.injEq, Prod.mk.injEq] at h
      obtain ⟨-, rfl⟩ := h
      have := (List.dropWhile_sublist isWordChar (l := cs)).length_le
      rw [hd] at this
      simp only [List.length_cons] at this ⊢
      omega
    next => simp at h
  next => simp at h

theorem length_lt_of_closeOptions? {cs name rest : List Char}
    (h : closeOptions? cs = some (name, rest)) : rest.length < cs.length := by
  induction cs with
  | nil => simp [closeOptions?] at h
  | cons c cs ih =>
    rw [closeOptions?] at h
    split at h
    next found hb =>
      split at hb
      · have := length_lt_of_braced? (hb.trans h)
        exact Nat.lt_succ_of_lt this
      · simp at hb
    next => exact Nat.lt_succ_of_lt (ih h)

theorem length_lt_of_argument? {cs name rest : List Char}
    (h : argument? cs = some (name, rest)) : rest.length < cs.length := by
  unfold argument? at h
  split at h
  · have := length_lt_of_closeOptions? h
    simp only [List.length_cons]
    omega
  · exact length_lt_of_braced? h

theorem length_lt_of_read? {cs name rest : List Char} (h : read? cs = some (name, rest)) :
    rest.length < cs.length := by
  obtain ⟨r, hr, ha⟩ := Option.bind_eq_some_iff.mp h
  have := length_lt_of_argument? ha
  have := length_le_of_stripWord? hr
  omega

/-! ### Lines and documents -/

/-- The names declared on a line, from left to right.  Reading goes on after each declaration. -/
def namesIn : List Char → List (List Char)
  | [] => []
  | c :: cs =>
    match _read : read? (c :: cs) with
    | some (name, rest) => name :: namesIn rest
    | none => namesIn cs
termination_by cs => cs.length
decreasing_by
  · exact length_lt_of_read? _read
  · exact Nat.lt_succ_self _

/-- The names declared on any line of the text but the one numbered `excluded`; lines count from
one, so zero excludes none. -/
def scanChars (text : List Char) (excluded : Nat) : List (List Char) :=
  ((lines text).zipIdx 1).flatMap fun (line, number) =>
    if number = excluded then [] else namesIn line

@[inherit_doc scanChars]
def scan (text : String) (excluded : Nat) : List String :=
  (scanChars text.toList excluded).map String.ofList

end Declaration

end TexCompletion
