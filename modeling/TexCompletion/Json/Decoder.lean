import TexCompletion.Json.Reader
import TexCompletion.Json.Value

/-!
# Decoders

A decoder says what form of JSON a place wants and what it means.  It works on two sources: directly
on text, where a fault has a place and everything that precedes it was read, and on a value that was
read before.  The two agree on what they accept, up to the order of members, which only a text has.

Records are decoded with the help of a draft, a partly filled record: each field of the form puts
its part into the draft, and at the end the draft is completed or the missing field is named.
-/

namespace TexCompletion.Json

/-- The form of JSON that a place wants. -/
structure Decoder (α : Type) where
  fromText : Reader α
  fromValue : Value → Except Cause α

/-- What a message names when a value is of the wrong form. -/
def Value.found : Value → Found
  | .null => .null
  | .bool b => .bool b
  | .number n => .number n
  | .string s => .string s
  | .array _ => .array
  | .object _ => .object

namespace Reader

/-- Complains that the value that comes next is not what was wanted.  A simple value is read first,
of an array or object the bracket is enough. -/
def wrongType {α : Type} (wanted : String) : Reader α := do
  let found ← do
    match ← peek with
    | some 'n' => skip; word ['u', 'l', 'l']; pure Found.null
    | some 't' => skip; word ['r', 'u', 'e']; pure (Found.bool true)
    | some 'f' => skip; word ['a', 'l', 's', 'e']; pure (Found.bool false)
    | some '-' => skip; pure (Found.number (← number true))
    | some '"' => skip; pure (Found.string (← string))
    | some '[' => pure Found.array
    | some '\x7b' => pure Found.object
    | some c =>
      if c.isDigit then pure (Found.number (← number false)) else failAhead .valueWanted
    | none => failAhead .valueWanted
  mismatch (.wrongType found wanted)

/-- Reads a value that begins with one of the expected characters. -/
def valueOf {α : Type} (wanted : String) (begin? : Char → Option (Reader α)) : Reader α :=
  located do
    match ← peekToken with
    | none => failAhead .endBeforeValue
    | some c =>
      match begin? c with
      | some r => r
      | none => wrongType wanted

/-- What follows a value that stands alone may only be white space. -/
def finish : Reader Unit := do
  if (← peekToken).isSome then failAhead .trailingCharacters

/-- Runs a reader on a text, of which it may leave an end. -/
def onBeginning {α : Type} (r : Reader α) (text : String) : Except Fault α :=
  match r (Cursor.start text) with
  | .ok a _ => .ok a
  | .error fault _ => .error fault

/-- Runs a reader on a whole text. -/
def onText {α : Type} (r : Reader α) (text : String) : Except Fault α :=
  onBeginning (do let a ← r; finish; return a) text

/-- Reads any value.  Members of objects come in ascending order of their names, and of members of
one name the last one counts. -/
def anyValue : Nat → Reader Value
  | 0 => failAhead .tooDeep
  | fuel + 1 => located do
    match ← peekToken with
    | none => failAhead .endBeforeValue
    | some 'n' => skip; word ['u', 'l', 'l']; return .null
    | some 't' => skip; word ['r', 'u', 'e']; return .bool true
    | some 'f' => skip; word ['a', 'l', 's', 'e']; return .bool false
    | some '-' => skip; return .number (← number true)
    | some '"' => skip; return .string (← string)
    | some '[' => enclosed (return .array (← elements (anyValue fuel))) endArray
    | some '\x7b' =>
      enclosed (return .object (← members (fun name acc => do
        colon
        return putMember name (← anyValue fuel) acc) [])) endObject
    | some c => if c.isDigit then return .number (← number false) else failAhead .valueWanted

end Reader

/-- Reads a text as a value. -/
def Value.ofText (text : String) : Except Fault Value :=
  (Reader.anyValue 129).onText text

namespace Decoder

/-- Decodes a whole text. -/
def onText {α : Type} (d : Decoder α) (text : String) : Except Fault α :=
  d.fromText.onText text

/-- Any value, as it stands. -/
def any : Decoder Value where
  fromText := Reader.anyValue 129
  fromValue := .ok

/-- A string that `f` makes sense of. -/
def parsed {α : Type} (wanted : String) (f : String → Except Cause α) : Decoder α where
  fromText := Reader.valueOf wanted fun c =>
    if c = '"' then some do
      Reader.skip
      match f (← Reader.string) with
      | .ok a => return a
      | .error cause => Reader.mismatch cause
    else none
  fromValue
    | .string s => f s
    | v => .error (.wrongType v.found wanted)

/-- A string. -/
def string : Decoder String :=
  parsed "a string" .ok

/-- A boolean. -/
def bool : Decoder Bool where
  fromText := Reader.valueOf "a boolean" fun c =>
    if c = 't' then some do Reader.skip; Reader.word ['r', 'u', 'e']; return true
    else if c = 'f' then some do Reader.skip; Reader.word ['a', 'l', 's', 'e']; return false
    else none
  fromValue
    | .bool b => .ok b
    | v => .error (.wrongType v.found "a boolean")

/-- A number as an integer between two bounds.  A number that was read as floating point is of the
wrong form even if it is whole. -/
def ofNumber (wanted : String) (least greatest : Int) (n : Number) : Except Cause Int :=
  match n with
  | .int k =>
    if least ≤ k ∧ k ≤ greatest then .ok k
    else .error (.wrongValue (.number n) wanted)
  | .float _ => .error (.wrongType (.number n) wanted)

/-- An integer between two bounds. -/
def int (wanted : String) (least greatest : Int) : Decoder Int where
  fromText := Reader.valueOf wanted fun c =>
    let finish (n : Number) : Reader Int :=
      match ofNumber wanted least greatest n with
      | .ok k => return k
      | .error cause => Reader.mismatch cause
    if c = '-' then some do Reader.skip; finish (← Reader.number true)
    else if c.isDigit then some do finish (← Reader.number false)
    else none
  fromValue
    | .number n => ofNumber wanted least greatest n
    | v => .error (.wrongType v.found wanted)

/-- A 32-bit integer. -/
def int32 : Decoder Int :=
  int "i32" (-0x80000000) 0x7FFFFFFF

/-- A 64-bit integer. -/
def int64 : Decoder Int :=
  int "i64" (-0x8000000000000000) 0x7FFFFFFFFFFFFFFF

/-- A natural number of 32 bits. -/
def nat32 : Decoder Nat :=
  let d := int "u32" 0 0xFFFFFFFF
  ⟨Int.toNat <$> d.fromText, fun v => Int.toNat <$> d.fromValue v⟩

/-- Either `null` or a value of the form `d`. -/
def optional {α : Type} (d : Decoder α) : Decoder (Option α) where
  fromText := do
    match ← Reader.peekToken with
    | some 'n' => Reader.skip; Reader.word ['u', 'l', 'l']; return none
    | _ => return some (← d.fromText)
  fromValue
    | .null => .ok none
    | v => some <$> d.fromValue v

/-- A value of the form `d` that `f` accepts.  A refusal is placed by the record around it. -/
def checked {α β : Type} (d : Decoder α) (f : α → Except Cause β) : Decoder β where
  fromText := do
    match f (← d.fromText) with
    | .ok b => return b
    | .error cause => Reader.mismatch cause
  fromValue v := do f (← d.fromValue v)

/-- Any value, and whether it is of the form `d`. -/
def fits {α : Type} (d : Decoder α) : Decoder Bool where
  fromText := fun c =>
    match d.fromText c with
    | .ok _ c => .ok true c
    | .error _ _ => (do Reader.skipValue; return false : Reader Bool) c
  fromValue v := .ok (d.fromValue v matches .ok _)

/-- A value of the form `d`, or else of the form `e`. -/
def orElse {α : Type} (d e : Decoder α) : Decoder α where
  fromText := fun c =>
    match d.fromText c with
    | .error _ _ => e.fromText c
    | result => result
  fromValue v :=
    match d.fromValue v with
    | .error _ => e.fromValue v
    | result => result

/-- An array of values of the form `d`. -/
def array {α : Type} (d : Decoder α) : Decoder (List α) where
  fromText := Reader.valueOf "a sequence" fun c =>
    if c = '[' then some (Reader.enclosed (Reader.elements d.fromText) Reader.endArray) else none
  fromValue
    | .array vs => vs.mapM d.fromValue
    | v => .error (.wrongType v.found "a sequence")

/-- An object with arbitrary names and values of the form `d`, gathered in order from `init` by
`put`. -/
def object {α σ : Type} (d : Decoder α) (init : σ) (put : String → α → σ → σ) : Decoder σ where
  fromText := Reader.valueOf "a map" fun c =>
    if c = '\x7b' then
      some (Reader.enclosed (Reader.members (fun name acc => do
        Reader.colon
        return put name (← d.fromText) acc) init) Reader.endObject)
    else none
  fromValue
    | .object ms => ms.foldlM (fun acc (name, v) => return put name (← d.fromValue v) acc) init
    | v => .error (.wrongType v.found "a map")

/-! ## Records -/

/-- A field of a record whose draft is of type `δ`. -/
structure Field (δ : Type) where
  name : String
  /-- The field was filled in before. -/
  isSet : δ → Bool
  /-- Decodes the value of the field and puts it into the draft. -/
  value : Decoder (δ → δ)

/-- A field of the form `d` with the place in the draft where it goes. -/
def Field.of {δ α : Type} (name : String) (d : Decoder α) (get : δ → Option α)
    (set : α → δ → δ) : Field δ :=
  ⟨name, fun draft => (get draft).isSome,
    ⟨set <$> d.fromText, fun v => set <$> d.fromValue v⟩⟩

/-- How a record is put together from its fields. -/
structure Form (δ α : Type) where
  /-- How a message names the record. -/
  name : String
  fields : List (Field δ)
  /-- A member that is no field is refused; otherwise it is skipped. -/
  isClosed : Bool := false
  empty : δ
  /-- Completes a draft whose source named its fields, or names the field that is missing. -/
  complete : δ → Except Cause α
  /-- Completes a draft whose source gave the first fields in order, without names.  Here a field
  that was not reached is missing unless it has a default. -/
  completeInOrder : δ → Option α

namespace Form

variable {δ α : Type}

/-- The complaint that an array ended before the record was complete. -/
def tooShort (form : Form δ α) (length : Nat) : Cause :=
  .wrongLength length (form.name ++ " with " ++ Cause.elements form.fields.length)

/-- The complaint about a member that is no field. -/
def unknown (form : Form δ α) (name : String) : Cause :=
  .unknownField name (form.fields.map (·.name))

/-- Reads the member of a given name into the draft. -/
def readMember (form : Form δ α) (name : String) (draft : δ) : Reader δ :=
  match form.fields.find? (·.name == name) with
  | none =>
    if form.isClosed then Reader.mismatch (form.unknown name)
    else do
      Reader.colon
      Reader.skipValue
      return draft
  | some field =>
    if field.isSet draft then Reader.mismatch (.repeatedField name)
    else do
      Reader.colon
      return (← field.value.fromText) draft

/-- Reads the fields in order from array elements. -/
def readInOrder (form : Form δ α) : Nat → Bool → List (Field δ) → δ → Reader α
  | length, _, [], draft => close length draft
  | length, first, field :: fields, draft => do
    if ← Reader.moreElements first then
      readInOrder form (length + 1) false fields ((← field.value.fromText) draft)
    else close length draft
where
  /-- Completes the draft after `length` elements. -/
  close (length : Nat) (draft : δ) : Reader α :=
    match form.completeInOrder draft with
    | some a => return a
    | none => Reader.mismatch (form.tooShort length)

/-- Reads a record, written as an object or as an array of its fields in order. -/
def read (form : Form δ α) : Reader α :=
  Reader.valueOf form.name fun c =>
    if c = '[' then
      some (Reader.enclosed (form.readInOrder 0 true form.fields form.empty) Reader.endArray)
    else if c = '\x7b' then
      some (Reader.enclosed (do
        match form.complete (← Reader.members form.readMember form.empty) with
        | .ok a => return a
        | .error cause => Reader.mismatch cause) Reader.endObject)
    else none

/-- Puts the member of a given name into the draft. -/
def putMember (form : Form δ α) (draft : δ) (member : String × Value) : Except Cause δ :=
  match form.fields.find? (·.name == member.1) with
  | none => if form.isClosed then .error (form.unknown member.1) else .ok draft
  | some field =>
    if field.isSet draft then .error (.repeatedField member.1)
    else do return (← field.value.fromValue member.2) draft

/-- Fills fields in order from array elements; what is left of the elements comes back. -/
def putInOrder : List (Field δ) → List Value → δ → Except Cause (List Value × δ)
  | [], vs, draft => .ok (vs, draft)
  | _, [], draft => .ok ([], draft)
  | field :: fields, v :: vs, draft => do
    putInOrder fields vs ((← field.value.fromValue v) draft)

/-- The record of a value. -/
def ofValue (form : Form δ α) : Value → Except Cause α
  | .object ms => do form.complete (← ms.foldlM form.putMember form.empty)
  | .array vs => do
    let (left, draft) ← putInOrder form.fields vs form.empty
    match form.completeInOrder draft with
    | none => .error (form.tooShort vs.length)
    | some a =>
      if left.isEmpty then .ok a
      else .error (.tooLong vs.length (vs.length - left.length))
  | v => .error (.wrongType v.found form.name)

end Form

/-- A record. -/
def record {δ α : Type} (form : Form δ α) : Decoder α :=
  ⟨form.read, form.ofValue⟩

/-- The value of a field that must be there. -/
def required {α : Type} (name : String) : Option α → Except Cause α
  | none => .error (.missingField name)
  | some a => .ok a

end Decoder

end TexCompletion.Json
