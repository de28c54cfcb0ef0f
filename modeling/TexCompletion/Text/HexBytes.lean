import TexCompletion.Text.Hex

/-!
# Bytes in hexadecimal digits

A byte is written as two digits, the high one first.  The reader works on the bytes of a text and knows
how many bytes it is to find: it counts before it looks at a digit, so what is counted are the bytes of
the text and not its characters.
-/

namespace TexCompletion.Text

/-- The value of a byte that is a hexadecimal digit in ASCII. -/
def hexByte? (b : UInt8) : Option UInt8 :=
  if 0x41 ≤ b ∧ b ≤ 0x46 then some (b - 0x41 + 10)
  else if 0x61 ≤ b ∧ b ≤ 0x66 then some (b - 0x61 + 10)
  else if 0x30 ≤ b ∧ b ≤ 0x39 then some (b - 0x30)
  else none

/-- The bytes that digits stand for, two for each byte. -/
def pairHex? : List UInt8 → Option (List UInt8)
  | high :: low :: rest => do
    return ((← hexByte? high) <<< 4 ||| (← hexByte? low)) :: (← pairHex? rest)
  | [] => some []
  | [_] => none

/-- The bytes of a text in UTF-8. -/
def utf8Bytes (text : String) : List UInt8 :=
  text.toUTF8.data.toList

/-- Reads a given number of bytes from the digits of a text. -/
def decodeHex? (count : Nat) (text : String) : Option (List UInt8) :=
  let digits := utf8Bytes text
  if digits.length % 2 ≠ 0 then none
  else if digits.length / 2 ≠ count then none
  else pairHex? digits

/-- Writes bytes in small letters. -/
def encodeHex (bytes : List UInt8) : List Char :=
  bytes.flatMap fun (b : UInt8) =>
    [hexDigit (lowDigit (b >>> 4).toNat), hexDigit (lowDigit (b &&& 0x0F).toNat)]

end TexCompletion.Text
