import TexCompletion.Json.Value

/-!
# Printing JSON

The shortest text of a value: no white space, and escapes only where a string needs them.
-/

namespace TexCompletion.Json

/-- A character inside a printed string. -/
def printedChar (c : Char) : List Char :=
  if c = '"' ∨ c = '\\' then ['\\', c]
  else if c = '\x08' then ['\\', 'b']
  else if c = '\x0c' then ['\\', 'f']
  else if c = '\n' then ['\\', 'n']
  else if c = '\r' then ['\\', 'r']
  else if c = '\t' then ['\\', 't']
  else if c.toNat < 0x20 then
    let digits := Nat.toDigits 16 c.toNat
    ['\\', 'u'] ++ List.replicate (4 - digits.length) '0' ++ digits
  else [c]

/-- A string between double quotes. -/
def printedString (s : String) : String :=
  String.ofList ('"' :: s.toList.flatMap printedChar ++ ['"'])

mutual

/-- The text of a value. -/
def Value.text : Value → String
  | .null => "null"
  | .bool b => if b then "true" else "false"
  | .number n => n.text
  | .string s => printedString s
  | .array vs => "[" ++ elementsText vs ++ "]"
  | .object ms => "\x7b" ++ membersText ms ++ "\x7d"

/-- The texts of array elements, with commas between them. -/
def elementsText : List Value → String
  | [] => ""
  | [v] => v.text
  | v :: vs => v.text ++ "," ++ elementsText vs

/-- The texts of object members, with commas between them. -/
def membersText : List (String × Value) → String
  | [] => ""
  | [(name, v)] => printedString name ++ ":" ++ v.text
  | (name, v) :: ms => printedString name ++ ":" ++ v.text ++ "," ++ membersText ms

end

end TexCompletion.Json
