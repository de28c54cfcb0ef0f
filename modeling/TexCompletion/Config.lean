import TexCompletion.Catalog

/-!
# Configuration

What a client can set.  The settings are read from a JSON value, either the settings themselves or
an object that holds them under the name of their section; `null` stands for the defaults.
-/

namespace TexCompletion

open Json

/-- The settings of a session. -/
structure Config where
  /-- Package names offered besides the catalog. -/
  extraPackages : List String := []
  /-- The boost of the empty declaration. -/
  emptyDeclarationBoost : Int := 10
  /-- Packages that the document loads already are not offered. -/
  scanDocument : Bool := true
deriving DecidableEq, Repr

namespace Config

/-- The section under which clients keep the settings. -/
def sectionName : String :=
  "latex"

/-- A configuration while its fields are being read. -/
structure Draft where
  extraPackages : Option (List String) := none
  emptyDeclarationBoost : Option Int := none
  scanDocument : Option Bool := none

/-- The configuration of a draft, with defaults for what was not given. -/
def ofDraft (d : Draft) : Config :=
  let default : Config := {}
  ⟨d.extraPackages.getD default.extraPackages,
    d.emptyDeclarationBoost.getD default.emptyDeclarationBoost,
    d.scanDocument.getD default.scanDocument⟩

/-- The form of the settings; every field may be missing. -/
def form : Decoder.Form Draft Config where
  name := "struct Config"
  fields := [
    .of "extraPackages" (.array .string) (·.extraPackages)
      fun v d => { d with extraPackages := some v },
    .of "emptyDeclarationBoost" .int32 (·.emptyDeclarationBoost)
      fun v d => { d with emptyDeclarationBoost := some v },
    .of "scanDocument" .bool (·.scanDocument) fun v d => { d with scanDocument := some v }]
  empty := {}
  complete d := .ok (ofDraft d)
  completeInOrder d := some (ofDraft d)

/-- A value that holds no settings. -/
structure Error where
  cause : Cause

/-- The wording of an error. -/
def Error.message (e : Error) : String :=
  "invalid configuration: " ++ e.cause.message

/-- The settings in a value: in its section if it has one, else in the value itself. -/
def ofValue (v : Value) : Except Error Config :=
  match (v.member? sectionName).getD v with
  | .null => .ok {}
  | settings =>
    match form.ofValue settings with
    | .ok config => .ok config
    | .error cause => .error ⟨cause⟩

/-- A configuration in JSON. -/
def toJson (config : Config) : Value :=
  .ofMembers [
    ("extraPackages", .array (config.extraPackages.map .string)),
    ("emptyDeclarationBoost", .ofInt config.emptyDeclarationBoost),
    ("scanDocument", .bool config.scanDocument)]

/-- The catalog with the extra packages of the configuration. -/
def catalog (config : Config) (bundled : Catalog) : Catalog :=
  bundled.extended config.extraPackages

end Config

end TexCompletion
