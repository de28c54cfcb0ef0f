import TexCompletion.Json.Number

/-!
# JSON values

A document as a tree.  The members of an object are kept in ascending order of their names, each
name once; when a document repeats a name, the last one counts.
-/

namespace TexCompletion.Json

/-- A JSON document. -/
inductive Value where
  | null
  | bool (b : Bool)
  | number (n : Number)
  | string (s : String)
  | array (elements : List Value)
  | object (members : List (String × Value))

instance : Inhabited Value := ⟨.null⟩

/-- Puts a member in its place in the order of names, in the place of one of the same name. -/
def putMember (name : String) (value : Value) : List (String × Value) → List (String × Value)
  | [] => [(name, value)]
  | (n, v) :: rest =>
    if name < n then (name, value) :: (n, v) :: rest
    else if name = n then (name, value) :: rest
    else (n, v) :: putMember name value rest

/-- The members of an object from name and value pairs in the order of a document. -/
def membersOf (pairs : List (String × Value)) : List (String × Value) :=
  pairs.foldl (fun members (name, value) => putMember name value members) []

namespace Value

/-- The member of an object under a name; nothing for values that are no objects. -/
def member? (v : Value) (name : String) : Option Value :=
  match v with
  | object members => members.lookup name
  | _ => none

/-- An object of the given members. -/
def ofMembers (members : List (String × Value)) : Value :=
  object (membersOf members)

/-- An integer as a value. -/
def ofInt (n : Int) : Value :=
  number (.int n)

/-- Nothing is written as `null`. -/
def ofOption {α : Type} (f : α → Value) : Option α → Value
  | none => null
  | some a => f a

end Value

end TexCompletion.Json
