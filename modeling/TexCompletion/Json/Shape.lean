import TexCompletion.Json.Decoder

/-!
# Shapes

A shape says what form of JSON a place wants when nothing of the value is kept.  Shapes are checked
on values, in the order in which a decoder would meet the parts: the members of an object by name,
then the fields that are missing, in the order of their declaration.

A record can share its object with other records.  Their members are set aside until its own are
read, and then each of the others is checked on them in turn.
-/

namespace TexCompletion.Json

/-- A form of values, as the check for it. -/
abbrev Shape := Value → Except Cause Unit

namespace Shape

/-- Any value. -/
def any : Shape :=
  fun _ => .ok ()

/-- What a decoder accepts. -/
def decoded {α : Type} (d : Decoder α) : Shape :=
  fun v => (fun _ => ()) <$> d.fromValue v

/-- A string. -/
def string : Shape :=
  decoded .string

/-- A boolean. -/
def bool : Shape :=
  decoded .bool

/-- A 32-bit integer. -/
def int32 : Shape :=
  decoded .int32

/-- A natural number of 32 bits. -/
def nat32 : Shape :=
  decoded .nat32

/-- A number of any kind. -/
def number : Shape
  | .number _ => .ok ()
  | v => .error (.wrongType v.found "f32")

/-- Either `null` or a value of the shape. -/
def optional (s : Shape) : Shape
  | .null => .ok ()
  | v => s v

/-- An array of values of the shape. -/
def array (s : Shape) : Shape
  | .array vs => vs.forM s
  | v => .error (.wrongType v.found "a sequence")

/-- An array of two values of the shape. -/
def twice (s : Shape) : Shape
  | .array [v, w] => do
    s v
    s w
  | v => .error (.wrongType v.found "an array of length 2")

/-- An object with arbitrary names; `wanted` is how a message names it. -/
def table (wanted : String) (name value : Shape) : Shape
  | .object ms => ms.forM fun (n, v) => do
    name (.string n)
    value v
  | v => .error (.wrongType v.found wanted)

/-- One of some words, alone or as the only member of an object, whose value says nothing. -/
def words (names : List String) : Shape
  | .string s => check s
  | .object [(s, v)] => do
    check s
    match v with
    | .null => .ok ()
    | v => .error (.wrongType v.found "unit")
  | .object _ => .error (.wrongValue .object "map with a single key")
  | v => .error (.wrongType v.found "string or map")
where
  /-- The word is one of the names. -/
  check (s : String) : Except Cause Unit :=
    if s ∈ names then .ok () else .error (.unknownVariant s names)

/-- A value of one of several shapes; `choice` is how a message names them together. -/
def oneOf (choice : String) (shapes : List Shape) : Shape :=
  fun v => if shapes.any fun s => s v matches .ok _ then .ok () else .error (.noVariant choice)

/-! ## Records -/

/-- When a field may be missing. -/
inductive Presence where
  | needed
  /-- It may be missing by name, but an array has it. -/
  | optional
  /-- It may be missing everywhere. -/
  | defaulted
deriving DecidableEq

/-- A field of a record. -/
structure Field where
  name : String
  presence : Presence
  shape : Shape

namespace Field

/-- A field that must be there. -/
def needed (name : String) (s : Shape) : Field :=
  ⟨name, .needed, s⟩

/-- A field that may be `null` or missing. -/
def maybe (name : String) (s : Shape) : Field :=
  ⟨name, .optional, .optional s⟩

/-- A field that has a default. -/
def defaulted (name : String) (s : Shape) : Field :=
  ⟨name, .defaulted, s⟩

end Field

/-- The members of an object that are fields have their shapes. -/
def members (fields : List Field) (ms : List (String × Value)) : Except Cause Unit :=
  ms.forM fun (name, v) =>
    match fields.find? (·.name == name) with
    | some field => field.shape v
    | none => .ok ()

/-- No field is missing that must be there. -/
def complete (fields : List Field) (ms : List (String × Value)) : Except Cause Unit :=
  fields.forM fun field =>
    if field.presence = .needed ∧ (ms.lookup field.name).isNone then
      .error (.missingField field.name)
    else .ok ()

/-- A record of the given name and fields, written as an object or as an array of its fields in
order. -/
def record (name : String) (fields : List Field) : Shape
  | .object ms => do
    members fields ms
    complete fields ms
  | .array vs => do
    (fields.zip vs).forM fun (field, v) => field.shape v
    match (fields.drop vs.length).findIdx? (·.presence ≠ .defaulted) with
    | some i =>
      .error (.wrongLength (vs.length + i)
        ("struct " ++ name ++ " with " ++ Cause.elements fields.length))
    | none =>
      if fields.length < vs.length then .error (.tooLong vs.length fields.length) else .ok ()
  | v => .error (.wrongType v.found ("struct " ++ name))

/-- A record that has fields of its own and shares its object with other records, which are checked
on what is left of it.  It is always written as an object. -/
def sharing (name : String) (own : List Field) (others : List Shape) : Shape
  | .object ms => do
    members own ms
    complete own ms
    let left := ms.filter fun (n, _) => own.all (·.name != n)
    others.forM fun other => (other (.object left)).mapError Cause.setAside
  | v => .error (.wrongType v.found ("struct " ++ name))

/-- A record of one of several kinds; the member of the name `tag` tells which.  In an array the tag
comes first. -/
def tagged (tag : String) (kinds : List (String × Shape)) : Shape
  | .object ms => kind (ms.lookup tag) (.object ms)
  | .array (v :: vs) => kind (some v) (.array vs)
  | v => .error (.wrongType v.found "internally tagged enum")
where
  /-- The value has the shape of the kind that the tag tells. -/
  kind (found : Option Value) (v : Value) : Except Cause Unit :=
    match found with
    | none => .error (.missingField tag)
    | some (.string s) =>
      match kinds.lookup s with
      | some shape => shape v
      | none => .error (.unknownVariant s (kinds.map Prod.fst))
    | some found => .error (.wrongType found.found "variant identifier")

end Shape

end TexCompletion.Json
