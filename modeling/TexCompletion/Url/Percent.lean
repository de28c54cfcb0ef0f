import TexCompletion.Text.Hex

/-!
# Percent-encoding

A character that a part of a URL cannot hold is written as its UTF-8 bytes, each as a percent sign
and two hexadecimal digits.  Which characters those are depends on the part.
-/

namespace TexCompletion.Url

open Text

/-- A byte in percent-encoding. -/
def encodedByte (b : UInt8) : List Char :=
  ['%', (hexDigit (lowDigit (b.toNat / 16))).toUpper,
    (hexDigit (lowDigit b.toNat)).toUpper]

/-- Writes the characters of a set in percent-encoding. -/
def encode (escaped : Char → Bool) (cs : List Char) : List Char :=
  cs.flatMap fun c =>
    if escaped c then (String.utf8EncodeChar c).flatMap encodedByte else [c]

/-- The bytes of a text with percent-encoded bytes put back.  A percent sign without two digits
stands for itself. -/
def decode : List Char → List UInt8
  | '%' :: a :: b :: cs =>
    match hexValue? a, hexValue? b with
    | some high, some low => UInt8.ofNat (high.val * 16 + low.val) :: decode cs
    | _, _ => 37 :: decode (a :: b :: cs)
  | c :: cs => String.utf8EncodeChar c ++ decode cs
  | [] => []

/-! ## What is encoded where -/

/-- Control characters and everything outside ASCII. -/
def isControl (c : Char) : Bool :=
  c.toNat < 0x20 || 0x7F ≤ c.toNat

/-- What a fragment encodes. -/
def inFragment (c : Char) : Bool :=
  isControl c || " \"<>`".toList.contains c

/-- What a path segment encodes. -/
def inPath (c : Char) : Bool :=
  inFragment c || "#?\x7b\x7d".toList.contains c

/-- What a user name or a password encodes. -/
def inUserinfo (c : Char) : Bool :=
  inPath c || "/:;=@[\\]^|".toList.contains c

/-- What a query encodes. -/
def inQuery (c : Char) : Bool :=
  isControl c || " \"#<>".toList.contains c

/-- What the query of a URL of a special scheme encodes. -/
def inSpecialQuery (c : Char) : Bool :=
  inQuery c || c == '\''

end TexCompletion.Url
