import TexCompletion.Json.Cause
import TexCompletion.Text.Hex
import TexCompletion.Text.Units

/-!
# Reading JSON text

A reader walks a text from left to right and keeps count of lines and columns, since every complaint
names the place where reading stopped.  This file holds what all readers share: looking at the next
character, the lexical parts (words, numbers, strings), the punctuation of arrays and objects, and
skipping a value that nobody wants.

Two places are reported.  A complaint about a character that was taken names the place behind it;
a complaint about the next character names the place one byte on, or the end of the text.
-/

namespace TexCompletion.Json

/-- Where a reader stands. -/
structure Cursor where
  /-- What is left of the text. -/
  rest : List Char
  /-- The line, from one. -/
  line : Nat
  /-- The bytes between the start of the line and here. -/
  column : Nat
  /-- How many more arrays and objects may be opened inside each other, and one. -/
  depth : Nat

namespace Cursor

/-- The start of a text.  At most 127 arrays and objects may be open at a time. -/
def start (text : String) : Cursor :=
  ⟨text.toList, 1, 0, 128⟩

/-- The place of the cursor. -/
def place (c : Cursor) : Place :=
  ⟨c.line, c.column⟩

/-- The cursor behind the next character. -/
def advance (c : Cursor) : Cursor :=
  match c.rest with
  | [] => c
  | '\n' :: rest => { c with rest, line := c.line + 1, column := 0 }
  | ch :: rest => { c with rest, column := c.column + ch.utf8Size }

/-- The place `n` bytes on, or the end of the text. -/
def placeAfter (c : Cursor) (n : Nat) : Place :=
  go c.place c.rest n
where
  /-- Steps over the characters that begin within `n` bytes. -/
  go (p : Place) : List Char → Nat → Place
    | [], _ => p
    | ch :: rest, n =>
      if n = 0 then p
      else if ch = '\n' then go ⟨p.line + 1, 0⟩ rest (n - 1)
      else if ch.utf8Size ≤ n then go ⟨p.line, p.column + ch.utf8Size⟩ rest (n - ch.utf8Size)
      else ⟨p.line, p.column + n⟩

end Cursor

/-- A computation that takes a beginning of the text, or finds fault with it. -/
abbrev Reader (α : Type) :=
  EStateM Fault Cursor α

namespace Reader

/-! ## Single characters -/

/-- The next character, left where it is. -/
def peek : Reader (Option Char) :=
  return (← get).rest.head?

/-- Steps over the next character. -/
def skip : Reader Unit :=
  modify Cursor.advance

/-- Takes the next character. -/
def next : Reader (Option Char) := do
  let c ← peek
  skip
  return c

/-- A complaint about what was taken last. -/
def fail {α : Type} (cause : Cause) : Reader α := do
  throw ⟨cause, some (← get).place⟩

/-- A complaint about what comes next. -/
def failAhead {α : Type} (cause : Cause) : Reader α := do
  throw ⟨cause, some ((← get).placeAfter 1)⟩

/-- A complaint about the form of a value, whose place the reader around it knows. -/
def mismatch {α : Type} (cause : Cause) : Reader α :=
  throw ⟨cause, none⟩

/-- Gives a fault without a place the place where reading stopped. -/
def located {α : Type} (r : Reader α) : Reader α := fun c =>
  match r c with
  | .error ⟨cause, none⟩ c' => .error ⟨cause, some c'.place⟩ c'
  | result => result

/-- White space of a JSON text. -/
def isSpace (c : Char) : Bool :=
  c == ' ' || c == '\n' || c == '\t' || c == '\r'

/-- Steps over as many characters of `p` as there are and returns them. -/
def takeWhile (p : Char → Bool) : Reader (List Char) := do
  let taken := (← get).rest.takeWhile p
  taken.forM fun _ => skip
  return taken

/-- Steps over white space and looks at what follows. -/
def peekToken : Reader (Option Char) := do
  let _ ← takeWhile isSpace
  peek

/-! ## Words -/

/-- Takes the rest of a word whose first character was taken. -/
def word : List Char → Reader Unit
  | [] => return
  | c :: cs => do
    match ← peek with
    | none => fail .endBeforeValue
    | some d =>
      if d = c then
        skip
        word cs
      else failAhead .misspelled

/-! ## Numbers -/

/-- The largest significand that is kept exactly. -/
def significandLimit : Nat :=
  0xFFFFFFFFFFFFFFFF

/-- Appends digits to a significand as long as it stays within the limit, and returns it with the
digits that were left over. -/
def extend (significand : Nat) : List Char → Nat × List Char
  | [] => (significand, [])
  | d :: ds =>
    let longer := significand * 10 + (d.toNat - '0'.toNat)
    if longer ≤ significandLimit then extend longer ds else (significand, d :: ds)

/-- Powers of ten beyond this one are applied in steps. -/
def largestPower : Nat :=
  308

/-- The power of ten as a floating-point number. -/
def powerOfTen (n : Nat) : Float :=
  Float.ofScientific 1 false n

/-- Multiplies `x` by a power of ten, the power applied as one multiplication or division; a
negative exponent beyond the largest power takes several divisions.  Nothing if the result is too
large. -/
def scaleBy (x : Float) (exponent : Int) : Nat → Option Float
  | 0 => some x
  | fuel + 1 =>
    if exponent.natAbs ≤ largestPower then
      if 0 ≤ exponent then
        let y := x * powerOfTen exponent.natAbs
        if y.isInf then none else some y
      else some (x / powerOfTen exponent.natAbs)
    else if x == 0.0 then some x
    else if 0 ≤ exponent then none
    else scaleBy (x / powerOfTen largestPower) (exponent + largestPower) fuel

/-- The floating-point number of a sign, a significand and an exponent. -/
def float (negative : Bool) (significand : Nat) (exponent : Int) : Reader Number := do
  -- four divisions bring every significand to zero
  match scaleBy significand.toUInt64.toFloat exponent 8 with
  | none => fail .numberTooLarge
  | some x => return .float (if negative then -x else x)

/-- The largest exponent whose digits are all read. -/
def exponentLimit : Nat :=
  0x7FFFFFFF

/-- Takes the digits of an exponent.  Nothing if they pass the limit; the digits from there on are
left. -/
def exponentDigits (value : Nat) : List Char → Reader (Option Nat)
  | [] => return some value
  | d :: ds => do
    skip
    let longer := value * 10 + (d.toNat - '0'.toNat)
    if longer ≤ exponentLimit then exponentDigits longer ds else return none

/-- Takes an exponent and finishes the number. -/
def exponentPart (negative : Bool) (significand : Nat) (exponent : Int) : Reader Number := do
  skip
  let down ← do
    match ← peek with
    | some '+' => skip; pure false
    | some '-' => skip; pure true
    | _ => pure false
  match ← peek with
  | none => fail .endBeforeValue
  | some d =>
    if !d.isDigit then failAhead .badNumber
    else
      let digits := (← get).rest.takeWhile Char.isDigit
      match ← exponentDigits 0 digits with
      | some e => float negative significand (if down then exponent - e else exponent + e)
      | none =>
        if significand ≠ 0 ∧ !down then fail .numberTooLarge
        else
          let _ ← takeWhile Char.isDigit
          return .float (if negative then -0.0 else 0.0)

/-- Takes a fraction, and an exponent if there is one, and finishes the number.  Digits beyond the
significand limit do not count. -/
def fractionPart (negative : Bool) (significand : Nat) (exponent : Int) : Reader Number := do
  skip
  let digits ← takeWhile Char.isDigit
  if digits.isEmpty then
    match ← peek with
    | some _ => failAhead .badNumber
    | none => failAhead .endBeforeValue
  else
    let (longer, left) := extend significand digits
    let shifted := exponent - (digits.length - left.length : Nat)
    match ← peek with
    | some 'e' | some 'E' => exponentPart negative longer shifted
    | _ => float negative longer shifted

/-- Takes the digits of an integer.  A zero in front of another digit is a fault. -/
def integerDigits : Reader (List Char) := do
  match ← peek with
  | none => fail .endBeforeValue
  | some '0' =>
    skip
    match ← peek with
    | some c => if c.isDigit then failAhead .badNumber else return ['0']
    | none => return ['0']
  | some c => if c.isDigit then takeWhile Char.isDigit else failAhead .badNumber

/-- Takes a number, its minus sign excepted.  An integer that needs more than 64 bits becomes a
floating-point number whose further digits count as zeros, and so does minus zero. -/
def number (negative : Bool) : Reader Number := do
  let (significand, left) := extend 0 (← integerDigits)
  match ← peek with
  | some '.' => fractionPart negative significand left.length
  | some 'e' | some 'E' => exponentPart negative significand left.length
  | _ =>
    if left ≠ [] then float negative significand left.length
    else if !negative then return .int significand
    else if significand = 0 ∨ 0x8000000000000000 < significand then float true significand 0
    else return .int (-significand)

/-! ## Strings -/

/-- Takes the four hexadecimal digits of an escape.  A place reported for a bad one is four bytes
on, wherever among them it stands. -/
def hex4 : Reader Nat := do
  let here ← get
  match here.rest.take 4 |>.mapM Text.hexValue? with
  | some [a, b, c, d] =>
    skip; skip; skip; skip
    return ((a * 16 + b) * 16 + c) * 16 + d.val
  | _ =>
    let bytes := Text.bytes8 here.rest
    if bytes < 4 then throw ⟨.endInString, some (here.placeAfter bytes)⟩
    else throw ⟨.badEscape, some (here.placeAfter 4)⟩

/-- Takes the character that an escape of four digits begins, with the second escape of a surrogate
pair. -/
def codePoint : Reader Char := do
  let high ← hex4
  if 0xDC00 ≤ high ∧ high ≤ 0xDFFF then fail .loneSurrogate
  else if high < 0xD800 ∨ 0xDBFF < high then return Char.ofNat high
  else
    expect '\\'
    expect 'u'
    let low ← hex4
    if low < 0xDC00 ∨ 0xDFFF < low then fail .loneSurrogate
    else return Char.ofNat ((high - 0xD800) * 0x400 + (low - 0xDC00) + 0x10000)
where
  /-- The second half of the pair must follow directly. -/
  expect (c : Char) : Reader Unit := do
    match ← peek with
    | none => fail .endInString
    | some d => if d = c then skip else failAhead .halfSurrogatePair

/-- The character that an escape of one letter stands for. -/
def shortEscape? : Char → Option Char
  | '"' => some '"'
  | '\\' => some '\\'
  | '/' => some '/'
  | 'b' => some '\x08'
  | 'f' => some '\x0c'
  | 'n' => some '\n'
  | 'r' => some '\r'
  | 't' => some '\t'
  | _ => none

/-- Takes an escape whose backslash was taken. -/
def escape : Reader Char := do
  match ← peek with
  | none => fail .endInString
  | some 'u' =>
    skip
    codePoint
  | some c =>
    match shortEscape? c with
    | some d =>
      skip
      return d
    | none => failAhead .badEscape

/-- A character that stands for itself in a string. -/
def isPlain (c : Char) : Bool :=
  c ≠ '"' && c ≠ '\\' && 0x20 ≤ c.toNat

/-- Takes a string whose opening quote was taken, with fewer than `fuel` escapes. -/
def stringFrom : Nat → Reader (List Char)
  | 0 => fail .endInString
  | fuel + 1 => do
    let plain ← takeWhile isPlain
    match ← next with
    | none => fail .endInString
    | some '"' => return plain
    | some '\\' =>
      let c ← escape
      return plain ++ c :: (← stringFrom fuel)
    | some _ => fail .controlCharacter

/-- Takes a string whose opening quote was taken. -/
def string : Reader String := do
  return String.ofList (← stringFrom ((← get).rest.length + 1))

/-! ## Arrays and objects -/

/-- Whether another element follows; `first` says that none was read yet. -/
def moreElements (first : Bool) : Reader Bool := do
  match ← peekToken with
  | none => failAhead .endInArray
  | some ']' => return false
  | some c =>
    if first then return true
    else if c ≠ ',' then failAhead .arrayCommaWanted
    else
      skip
      match ← peekToken with
      | none => failAhead .endBeforeValue
      | some ']' => failAhead .trailingComma
      | some _ => return true

/-- Whether another member follows; `first` says that none was read yet. -/
def moreMembers (first : Bool) : Reader Bool := do
  match ← peekToken with
  | none => failAhead .endInObject
  | some '\x7d' => return false
  | some c =>
    if first then
      if c = '"' then return true else failAhead .nameWanted
    else if c ≠ ',' then failAhead .objectCommaWanted
    else
      skip
      match ← peekToken with
      | none => failAhead .endBeforeValue
      | some '"' => return true
      | some '\x7d' => failAhead .trailingComma
      | some _ => failAhead .nameWanted

/-- Takes the name of a member that follows. -/
def memberName : Reader String := do
  skip
  string

/-- Takes the colon behind the name of a member. -/
def colon : Reader Unit := do
  match ← peekToken with
  | some ':' => skip
  | some _ => failAhead .colonWanted
  | none => failAhead .endInObject

/-- Takes the end of an array. -/
def endArray : Reader Unit := do
  match ← peekToken with
  | some ']' => skip
  | some ',' =>
    skip
    match ← peekToken with
    | some ']' => failAhead .trailingComma
    | _ => failAhead .trailingCharacters
  | some _ => failAhead .trailingCharacters
  | none => failAhead .endInArray

/-- Takes the end of an object. -/
def endObject : Reader Unit := do
  match ← peekToken with
  | some '\x7d' => skip
  | some ',' => failAhead .trailingComma
  | some _ => failAhead .trailingCharacters
  | none => failAhead .endInObject

/-- Reads what stands between brackets, from the opening one, which comes next, to the closing one.
The end is looked for even if the inside is at fault, and a fault of the inside is placed where that
search stopped. -/
def enclosed {α : Type} (inside : Reader α) (closing : Reader Unit) : Reader α := fun c =>
  if c.depth ≤ 1 then failAhead .tooDeep { c with depth := c.depth - 1 }
  else
    match (do skip; inside) { c with depth := c.depth - 1 } with
    | .ok a c' =>
      match closing { c' with depth := c.depth } with
      | .ok () c'' => .ok a c''
      | .error fault c'' => .error fault c''
    | .error fault c' =>
      match closing { c' with depth := c.depth } with
      | .ok () c'' => .error fault c''
      | .error _ c'' => .error fault c''

/-- Reads array elements one after another; each takes at least one character, so `fuel` may be the
length of the text. -/
def elementsFrom {α : Type} (element : Reader α) (first : Bool) : Nat → Reader (List α)
  | 0 => return []
  | fuel + 1 => do
    if ← moreElements first then
      let a ← element
      return a :: (← elementsFrom element false fuel)
    else return []

/-- Reads the elements of an array. -/
def elements {α : Type} (element : Reader α) : Reader (List α) := do
  elementsFrom element true ((← get).rest.length + 1)

/-- Reads object members one after another, threading what was gathered so far. -/
def membersFrom {σ : Type} (member : String → σ → Reader σ) (first : Bool) : Nat → σ → Reader σ
  | 0, acc => return acc
  | fuel + 1, acc => do
    if ← moreMembers first then
      let name ← memberName
      membersFrom member false fuel (← member name acc)
    else return acc

/-- Reads the members of an object; the reader of a member takes the colon itself. -/
def members {σ : Type} (member : String → σ → Reader σ) (init : σ) : Reader σ := do
  membersFrom member true ((← get).rest.length + 1) init

/-! ## Values that are not wanted -/

/-- Steps over the digits of an exponent. -/
def skipExponent : Reader Unit := do
  skip
  match ← peek with
  | some '+' | some '-' => skip
  | _ => pure ()
  if (← takeWhile Char.isDigit).isEmpty then failAhead .badNumber

/-- Steps over the digits of an integer. -/
def skipInteger : Reader Unit := do
  if (← peek) = some '0' then
    skip
    if (← peek).any Char.isDigit then failAhead .badNumber
  else if (← takeWhile Char.isDigit).isEmpty then failAhead .badNumber

/-- Steps over a number, its minus sign excepted.  No number is too large to be ignored. -/
def skipNumber : Reader Unit := do
  skipInteger
  match ← peek with
  | some '.' =>
    skip
    if (← takeWhile Char.isDigit).isEmpty then failAhead .badNumber
    match ← peek with
    | some 'e' | some 'E' => skipExponent
    | _ => pure ()
  | some 'e' | some 'E' => skipExponent
  | _ => pure ()

/-- Steps over an escape whose backslash was taken; halves of surrogate pairs may stand alone. -/
def skipEscape : Reader Unit := do
  match ← peek with
  | none => fail .endInString
  | some 'u' =>
    skip
    let _ ← hex4
  | some c => if (shortEscape? c).isSome then skip else failAhead .badEscape

/-- Steps over a string whose opening quote was taken, with fewer than `fuel` escapes.  A control
character is complained about in front of it. -/
def skipString : Nat → Reader Unit
  | 0 => fail .endInString
  | fuel + 1 => do
    let _ ← takeWhile isPlain
    match ← peek with
    | none => fail .endInString
    | some '"' => skip
    | some '\\' =>
      skip
      skipEscape
      skipString fuel
    | some _ => fail .controlCharacter

/-- Steps over a string whose opening quote comes next. -/
def skipQuoted : Reader Unit := do
  skip
  skipString ((← get).rest.length + 1)

/-- A bracket that is open while a value is skipped. -/
inductive Bracket where
  | array
  | object

/-- Steps over the name of a member and its colon. -/
def skipName : Reader Unit := do
  match ← peekToken with
  | some '"' => skipQuoted
  | some _ => failAhead .nameWanted
  | none => failAhead .endInObject
  match ← peekToken with
  | some ':' => skip
  | some _ => failAhead .colonWanted
  | none => failAhead .endInObject

/-- Leaves the brackets that close here and stops in front of the next value, if there is one.
`first` says that the innermost bracket was just opened. -/
def closeBrackets (open_ : List Bracket) (first : Bool) : Nat → Reader (List Bracket)
  | 0 => return []
  | fuel + 1 => do
    match open_ with
    | [] => return []
    | .array :: outer =>
      match ← peekToken with
      | some ',' =>
        if first then return open_
        else
          skip
          return open_
      | some ']' =>
        skip
        closeBrackets outer false fuel
      | some _ => if first then return open_ else failAhead .arrayCommaWanted
      | none => failAhead .endInArray
    | .object :: outer =>
      match ← peekToken with
      | some ',' =>
        if !first then skip
        skipName
        return open_
      | some '\x7d' =>
        skip
        closeBrackets outer false fuel
      | some _ =>
        if first then
          skipName
          return open_
        else failAhead .objectCommaWanted
      | none => failAhead .endInObject

/-- Steps over a value with the given brackets open around it.  Every round takes a character. -/
def skipValues : Nat → List Bracket → Reader Unit
  | 0, _ => return
  | fuel + 1, open_ => do
    let (now, first) ← do
      match ← peekToken with
      | some 'n' => skip; word ['u', 'l', 'l']; pure (open_, false)
      | some 't' => skip; word ['r', 'u', 'e']; pure (open_, false)
      | some 'f' => skip; word ['a', 'l', 's', 'e']; pure (open_, false)
      | some '-' => skip; skipNumber; pure (open_, false)
      | some '"' => skipQuoted; pure (open_, false)
      | some '[' => skip; pure (.array :: open_, true)
      | some '\x7b' => skip; pure (.object :: open_, true)
      | some c =>
        if c.isDigit then skipNumber; pure (open_, false)
        else failAhead .valueWanted
      | none => failAhead .endBeforeValue
    let left ← closeBrackets now first ((← get).rest.length + 1)
    if left.isEmpty then return else skipValues fuel left

/-- Steps over a value. -/
def skipValue : Reader Unit := do
  skipValues ((← get).rest.length + 1) []

end Reader

end TexCompletion.Json
