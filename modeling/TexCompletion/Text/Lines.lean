/-!
# Lines

Two notions of line are in use, and they are kept apart on purpose.

* `lines` cuts where a source file is cut: after `\n`, with a `\r` before it belonging to the
  break.  The usage scan numbers these.
* `editorLines` cuts after every line break of the Unicode standard, `\r\n` counting once.  The
  positions an editor sends index these.

`editorLines` keeps the breaks at the ends of its lines, so the lines put together are the text
(`flatten_editorLines`).
-/

namespace TexCompletion.Text

/-! ## Source lines -/

/-- The pieces of a text between its line feeds; a text has one more piece than line feeds. -/
def pieces : List Char → List (List Char)
  | [] => [[]]
  | c :: cs =>
    if c = '\n' then [] :: pieces cs
    else match pieces cs with
      | [] => [[c]]
      | p :: ps => (c :: p) :: ps

theorem pieces_ne_nil (cs : List Char) : pieces cs ≠ [] := by
  cases cs with
  | nil => simp [pieces]
  | cons c cs =>
    rw [pieces]
    split
    · simp
    · split <;> simp

/-- The text without one carriage return at its end. -/
def dropReturn (cs : List Char) : List Char :=
  if cs.getLast? = some '\r' then cs.dropLast else cs

/-- The lines of a source text.  A line ends at `\n` or `\r\n`, which is no part of it; what
follows the last line feed is a line only if it is not empty, and keeps a `\r` at its end. -/
def lines (cs : List Char) : List (List Char) :=
  let ps := pieces cs
  ps.dropLast.map dropReturn ++ ps.getLast?.toList.filter (· ≠ [])

/-! ## Editor lines -/

/-- The characters that break a line on their own: line feed, vertical tab, form feed, carriage
return, next line, line separator and paragraph separator. -/
def isLineBreak (c : Char) : Bool :=
  (0x0A ≤ c.toNat && c.toNat ≤ 0x0D) || c.toNat == 0x85 || c.toNat == 0x2028 || c.toNat == 0x2029

/-- Puts a character in front of the first line. -/
def prependTo (c : Char) : List (List Char) → List (List Char)
  | [] => [[c]]
  | l :: ls => (c :: l) :: ls

/-- The lines an editor counts, each with the break that ends it.  The last one has no break and
may be empty, so the empty text has one line. -/
def editorLines : List Char → List (List Char)
  | [] => [[]]
  | '\r' :: '\n' :: cs => ['\r', '\n'] :: editorLines cs
  | c :: cs => if isLineBreak c then [c] :: editorLines cs else prependTo c (editorLines cs)

@[simp] theorem flatten_prependTo (c : Char) (ls : List (List Char)) :
    (prependTo c ls).flatten = c :: ls.flatten := by
  cases ls <;> rfl

/-- The lines of a text, put together, are the text. -/
theorem flatten_editorLines (cs : List Char) : (editorLines cs).flatten = cs := by
  fun_induction editorLines cs with
  | case1 => rfl
  | case2 cs ih => simp [ih]
  | case3 c cs _ _ ih => simp [ih]
  | case4 c cs _ _ ih => simp [ih]

end TexCompletion.Text
