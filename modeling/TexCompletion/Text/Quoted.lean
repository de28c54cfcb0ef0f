import TexCompletion.Text.Invisible

/-!
# Quoted text in messages

How a message shows a text it complains about: between double quotes, on one line, with everything
that a reader could not see replaced by an escape.
-/

namespace TexCompletion.Text

/-- A character inside a quoted text.  Quotes, backslashes and the usual controls have escapes of
two characters; whatever else has no mark of its own is given by its code point. -/
def quotedChar (c : Char) : List Char :=
  if c = '\\' ∨ c = '"' then ['\\', c]
  else if c = '\t' then ['\\', 't']
  else if c = '\n' then ['\\', 'n']
  else if c = '\r' then ['\\', 'r']
  else if c.toNat = 0 then ['\\', '0']
  else if isInvisible c then
    '\\' :: 'u' :: '\x7b' :: Nat.toDigits 16 c.toNat ++ ['\x7d']
  else [c]

/-- A text between double quotes. -/
def quoted (s : String) : String :=
  String.ofList ('"' :: s.toList.flatMap quotedChar ++ ['"'])

end TexCompletion.Text
