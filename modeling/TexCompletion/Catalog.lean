import TexCompletion.Json.Decoder

/-!
# Catalog of package names

The names that are offered whatever the documents say, in the order in which they are offered.  No
name is listed twice; that is part of the type, and a list with repetitions becomes a catalog by
keeping first occurrences.
-/

namespace TexCompletion

/-- Keeping first occurrences leaves no repetition. -/
theorem nodup_eraseDups (names : List String) : names.eraseDups.Nodup := by
  match names with
  | [] => exact .nil
  | name :: rest =>
    rw [List.eraseDups_cons]
    refine List.nodup_cons.mpr ⟨fun h => ?_, nodup_eraseDups _⟩
    simpa using List.mem_eraseDups.mp h
termination_by names.length
decreasing_by
  exact Nat.lt_succ_of_le (List.length_filter_le _ rest)

/-- Package names without repetition. -/
structure Catalog where
  names : List String
  distinct : names.Nodup := by decide

namespace Catalog

instance : DecidableEq Catalog := fun a b =>
  if h : a.names = b.names then .isTrue (by cases a; cases b; simp_all)
  else .isFalse fun e => h (e ▸ rfl)

/-- The catalog of the names in a list, first occurrences first. -/
def ofList (names : List String) : Catalog :=
  ⟨names.eraseDups, nodup_eraseDups names⟩

/-- A catalog has the names of the list it is made of. -/
theorem mem_ofList {name : String} {names : List String} :
    name ∈ (ofList names).names ↔ name ∈ names :=
  List.mem_eraseDups

instance : EmptyCollection Catalog := ⟨⟨[], .nil⟩⟩

/-- The catalog followed by those extra names that it does not have. -/
def extended (c : Catalog) (extra : List String) : Catalog :=
  ofList (c.names ++ extra)

/-- The catalog lists a name. -/
def contains (c : Catalog) (name : String) : Bool :=
  c.names.contains name

/-- A text that is no catalog. -/
structure Error where
  fault : Json.Fault

/-- The wording of an error. -/
def Error.message (e : Error) : String :=
  "invalid package catalog: " ++ e.fault.message

/-- Reads a catalog from a JSON array of names. -/
def ofJson (text : String) : Except Error Catalog :=
  match (Json.Decoder.array .string).onText text with
  | .ok names => .ok (ofList names)
  | .error fault => .error ⟨fault⟩

end Catalog

end TexCompletion
