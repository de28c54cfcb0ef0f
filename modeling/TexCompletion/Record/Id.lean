import TexCompletion.Json.Decoder
import TexCompletion.Text.Blank
import TexCompletion.Text.Hex

/-!
# Record ids

An id is twelve bytes, written as twenty-four hexadecimal digits.  `RecordId.parse` takes exactly
such digits in either case; `RecordId.normalize` allows white space around them.  Ids are written in
small letters, so all spellings of an id come out the same.
-/

namespace TexCompletion

open Text

/-- An opaque id of twelve bytes. -/
structure RecordId where
  /-- The hexadecimal digits, two for each byte. -/
  digits : List (Fin 16)
  length_digits : digits.length = 24
deriving DecidableEq

/-- What can be wrong with an operation on records. -/
inductive RecordError where
  /-- A text that was given for an id is none. -/
  | invalidId (text : String)
  /-- The room has no record of that id. -/
  | notFound (room id : RecordId)
deriving DecidableEq

namespace RecordId

/-- The id of hexadecimal digits in either case, if there are as many as an id has. -/
def ofDigits? (cs : List Char) : Option RecordId :=
  match cs.mapM hexValue? with
  | none => none
  | some digits => if h : digits.length = 24 then some ⟨digits, h⟩ else none

/-- The characters of an id. -/
def toChars (id : RecordId) : List Char :=
  id.digits.map hexDigit

/-- An id as text. -/
protected def toString (id : RecordId) : String :=
  String.ofList id.toChars

instance : ToString RecordId := ⟨RecordId.toString⟩

/-- Reads an id that is written without anything around it. -/
def parse (text : String) : Except RecordError RecordId :=
  match ofDigits? text.toList with
  | some id => .ok id
  | none => .error (.invalidId text)

/-- Reads an id that may have white space around it. -/
def normalize (text : String) : Except RecordError RecordId :=
  parse (trim text)

/-- The last `count` hexadecimal digits of a number. -/
def lastDigits (n : Nat) : Nat → List (Fin 16)
  | 0 => []
  | count + 1 => lastDigits (n / 16) count ++ [lowDigit n]

theorem length_lastDigits (n count : Nat) : (lastDigits n count).length = count := by
  induction count generalizing n with
  | zero => rfl
  | succ count ih => simp [lastDigits, ih]

/-- The id of a record made at a time, in seconds, by a process that has made `count` records
before.  Each of the three takes four bytes. -/
def stamped (seconds process count : Nat) : RecordId :=
  ⟨lastDigits seconds 8 ++ lastDigits process 8 ++ lastDigits count 8, by
    simp [length_lastDigits]⟩

end RecordId

namespace RecordError

/-- The wording of an error. -/
def message : RecordError → String
  | invalidId text => "invalid record id " ++ quoted text ++ ", expected 24 hex characters"
  | notFound room id => "record " ++ toString id ++ " not found in room " ++ toString room

end RecordError

open Json in
/-- An id as a JSON string, with white space around it or not. -/
def RecordId.decoder : Decoder RecordId :=
  .checked .string fun text =>
    (RecordId.normalize text).mapError fun error => .refused error.message

end TexCompletion
