import TexCompletion.Text.Composed
import TexCompletion.Text.Direction
import TexCompletion.Text.Joining
import TexCompletion.Url.Punycode
import TexCompletion.Url.Spelling

/-!
# Domain names

A domain name is registered in small ASCII letters.  `Domain.ascii?` brings a name to that form: its
characters are replaced by those they count as, marks are composed with their letters, and a label
that needs characters outside ASCII is spelled in Punycode behind a mark.  A name that could be
taken for another, because of a stray mark, an invisible joiner or a change of direction, is
refused.
-/

namespace TexCompletion.Url.Domain

open Text

/-! ## Characters -/

/-- A character that no host can hold. -/
def isForbidden (c : Char) : Bool :=
  c.toNat = 0 || "\t\n\r #/:<>?@[\\]^|".toList.contains c

/-- A character that no domain name can hold. -/
def isRefused (c : Char) : Bool :=
  isForbidden c || c = '%' || c.toNat < 0x20 || c.toNat = 0x7F

/-- A character of ASCII. -/
def isAscii (c : Char) : Bool :=
  c.toNat < 0x80

/-! ## Labels -/

/-- The mark of a label in Punycode. -/
def mark : List Char :=
  "xn--".toList

/-- The most characters of a label that is put into Punycode. -/
def longestLabel : Nat := 1000

/-- The most characters of a label that is read from Punycode. -/
def longestSpelling : Nat := 2000

/-- A character that keeps its neighbours apart without being seen. -/
def nonJoiner : Char := '\u200c'

/-- A character that ties its neighbours together without being seen. -/
def joiner : Char := '\u200d'

/-- Every joiner is where it changes the writing: behind a mark that silences a vowel, and if it
keeps letters apart, also between letters that would be joined.  `before` is what precedes the text,
from its end. -/
def joinersFit (before : List Char) : List Char → Bool
  | [] => true
  | c :: cs =>
    (if c = nonJoiner ∨ c = joiner then
      before.head?.any (markClass · == silencing) || (c == nonJoiner && Joining.meets before cs)
    else true) && joinersFit (c :: before) cs

/-- A label that can be told from others: it does not begin with a mark and its joiners fit. -/
def isClear (label : List Char) : Bool :=
  !label.head?.any isMark && joinersFit [] label

/-- The label that a text in Punycode behind the mark spells.  It needs its characters outside
ASCII, and every one of its characters counts as it stands. -/
def spelled? (digits : List Char) : Option (List Char) :=
  if digits.all isAscii && digits.length ≤ longestSpelling then do
    let label ← Punycode.decode? digits
    if label.all (fun c => Spelling.isPlain c && !isRefused c && c != '.') &&
        !label.all isAscii && composed label == label && Punycode.encode label == digits then
      some label
    else none
  else none

/-- A label as it is read and as it is registered. -/
structure Label where
  characters : List Char
  registered : List Char
deriving DecidableEq, Repr

/-- Reads a label whose characters stand for themselves. -/
def label? (cs : List Char) : Option Label := do
  if mark.isPrefixOf cs then
    let label ← spelled? (cs.drop mark.length)
    if isClear label then some ⟨label, cs⟩ else none
  else if cs.all isAscii then some ⟨cs, cs⟩
  else if isClear cs && cs.length ≤ longestLabel then some ⟨cs, mark ++ Punycode.encode cs⟩
  else none

/-! ## Names -/

/-- The characters that a name counts as, composed. -/
def counted? (cs : List Char) : Option (List Char) := do
  let name := composed (← cs.mapM Spelling.counted?).flatten
  if name.any isRefused then none else some name

/-- If any part of a name runs to the left, every label keeps to one direction. -/
def isOneWay (labels : List Label) : Bool :=
  let directions := labels.map (·.characters.map Direction.of)
  !directions.any (·.any Direction.turns) || directions.all Direction.runsOneWay

/-- A domain name in the form in which it is registered. -/
def ascii? (cs : List Char) : Option (List Char) := do
  let labels ← (splitWhere (· = '.') (← counted? cs)).mapM label?
  if isOneWay labels then some (['.'].intercalate (labels.map (·.registered))) else none

end TexCompletion.Url.Domain
