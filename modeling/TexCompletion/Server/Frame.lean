import TexCompletion.Text.Blank

/-!
# Frames

How messages are told apart in a stream: in front of each stand header lines, one of which gives its
length in bytes, and an empty line.
-/

namespace TexCompletion.Server.Frame

/-- The name of the header that gives the length. -/
def lengthHeader : String :=
  "content-length"

/-- The length that a header line gives; nothing for other headers. -/
def length? (header : String) : Option Nat :=
  let cs := header.toList
  let name := Text.trim (String.ofList (cs.takeWhile (· ≠ ':')))
  let value := Text.trim (String.ofList ((cs.dropWhile (· ≠ ':')).drop 1))
  if name.toLower = lengthHeader then value.toNat? else none

/-- The header of a message. -/
def header (message : String) : String :=
  "Content-Length: " ++ toString message.utf8ByteSize ++ "\r\n\r\n"

end TexCompletion.Server.Frame
