import TexCompletion.Json.Number
import TexCompletion.Text.Quoted

/-!
# What can be wrong with a JSON document

The causes fall in two groups: the text is not JSON, or it is JSON of another form than the place
wants.  `Cause.message` is the wording of each.  A cause that was met in a text also has a place,
`Fault.place`.
-/

namespace TexCompletion.Json

/-- What was found where something else was wanted. -/
inductive Found where
  | null
  | bool (b : Bool)
  | number (n : Number)
  | string (s : String)
  | array
  | object

/-- How a message names what was found. -/
def Found.name : Found → String
  | null => "null"
  | bool b => "boolean `" ++ toString b ++ "`"
  | number (.int n) => "integer `" ++ toString n ++ "`"
  | number (.float x) => "floating point `" ++ floatText x ++ "`"
  | string s => "string " ++ Text.quoted s
  | array => "sequence"
  | object => "map"

/-- The reason why a document is refused. -/
inductive Cause where
  /-- The text ends in front of a value. -/
  | endBeforeValue
  | endInArray
  | endInObject
  | endInString
  | colonWanted
  | arrayCommaWanted
  | objectCommaWanted
  /-- A word that begins like `null`, `true` or `false` goes on differently. -/
  | misspelled
  | valueWanted
  | badEscape
  | badNumber
  | numberTooLarge
  /-- An escape for one half of a surrogate pair stands where it cannot. -/
  | loneSurrogate
  /-- The second half of a surrogate pair is missing. -/
  | halfSurrogatePair
  | controlCharacter
  | nameWanted
  | trailingComma
  | trailingCharacters
  | tooDeep
  | wrongType (found : Found) (wanted : String)
  | wrongValue (found : Found) (wanted : String)
  | wrongLength (length : Nat) (wanted : String)
  /-- An array goes on behind the elements that were taken. -/
  | tooLong (length taken : Nat)
  | missingField (name : String)
  | repeatedField (name : String)
  | unknownField (name : String) (fields : List String)
  | unknownVariant (name : String) (variants : List String)
  /-- The value has none of the forms that a choice allows. -/
  | noVariant (choice : String)
  /-- The value has the right form but its reader refuses it, for the reason given. -/
  | refused (reason : String)

namespace Cause

/-- A number of elements. -/
def elements (n : Nat) : String :=
  toString n ++ if n = 1 then " element" else " elements"

/-- The wording of names of which one is wanted. -/
def oneOf : List String → String
  | [a] => "`" ++ a ++ "`"
  | [a, b] => "`" ++ a ++ "` or `" ++ b ++ "`"
  | names => "one of " ++ ", ".intercalate (names.map fun a => "`" ++ a ++ "`")

/-- The wording of a cause. -/
def message : Cause → String
  | endBeforeValue => "EOF while parsing a value"
  | endInArray => "EOF while parsing a list"
  | endInObject => "EOF while parsing an object"
  | endInString => "EOF while parsing a string"
  | colonWanted => "expected `:`"
  | arrayCommaWanted => "expected `,` or `]`"
  | objectCommaWanted => "expected `,` or `\x7d`"
  | misspelled => "expected ident"
  | valueWanted => "expected value"
  | badEscape => "invalid escape"
  | badNumber => "invalid number"
  | numberTooLarge => "number out of range"
  | loneSurrogate => "lone leading surrogate in hex escape"
  | halfSurrogatePair => "unexpected end of hex escape"
  | controlCharacter => "control character (\\u0000-\\u001F) found while parsing a string"
  | nameWanted => "key must be a string"
  | trailingComma => "trailing comma"
  | trailingCharacters => "trailing characters"
  | tooDeep => "recursion limit exceeded"
  | wrongType found wanted => "invalid type: " ++ found.name ++ ", expected " ++ wanted
  | wrongValue found wanted => "invalid value: " ++ found.name ++ ", expected " ++ wanted
  | wrongLength length wanted => "invalid length " ++ toString length ++ ", expected " ++ wanted
  | tooLong length _ => "invalid length " ++ toString length ++ ", expected fewer elements in array"
  | missingField name => "missing field `" ++ name ++ "`"
  | repeatedField name => "duplicate field `" ++ name ++ "`"
  | unknownField name fields => "unknown field `" ++ name ++ "`, expected " ++ oneOf fields
  | unknownVariant name variants => "unknown variant `" ++ name ++ "`, expected " ++ oneOf variants
  | noVariant choice => "data did not match any variant of untagged enum " ++ choice
  | refused reason => reason

/-- The cause as it is told of a part of a record that was set aside until the rest of the record
was read.  An array that is too long then names the elements that were taken. -/
def setAside : Cause → Cause
  | tooLong length taken => wrongLength length (elements taken ++ " in sequence")
  | cause => cause

end Cause

/-- A line and a column of a text, the line counted from one, the column in bytes from the start of
the line. -/
structure Place where
  line : Nat
  column : Nat
deriving DecidableEq, Repr

/-- A cause and where in the text it was met, if that is known. -/
structure Fault where
  cause : Cause
  place : Option Place

/-- The wording of a fault. -/
def Fault.message (f : Fault) : String :=
  match f.place with
  | none => f.cause.message
  | some p =>
    f.cause.message ++ " at line " ++ toString p.line ++ " column " ++ toString p.column

end TexCompletion.Json
