import TexCompletion.Json.Value

/-!
# Suggestions

What completion offers.  A suggestion goes to one of two channels, which the text before the
cursor selects, and inserts either plain text or a template with markers.
-/

namespace TexCompletion

/-- The list a suggestion belongs to. -/
inductive Channel where
  /-- Statements and package commands, offered after a backslash. -/
  | command
  /-- Bare package names, offered in the braces of a declaration. -/
  | packageParameter
deriving DecidableEq, Repr

/-- The name of a channel in exchanged data. -/
def Channel.name : Channel → String
  | command => "command"
  | packageParameter => "package-parameter"

/-- What accepting a suggestion inserts. -/
inductive Insertion where
  /-- The text as it stands. -/
  | text (value : String)
  /-- A template whose markers become places to fill in. -/
  | snippet (template : String)
deriving DecidableEq, Repr

/-- One entry of a completion list. -/
structure Suggestion where
  channel : Channel
  /-- The classification tag, such as `pkg`, `cmd` or `env`. -/
  tag : String
  label : String
  insertion : Insertion
  /-- How far the entry is moved up the list, nothing for the usual place. -/
  boost : Option Int
deriving DecidableEq, Repr

open Json in
/-- An insertion in JSON. -/
def Insertion.toJson : Insertion → Value
  | text value => .ofMembers [("type", .string "text"), ("value", .string value)]
  | snippet template => .ofMembers [("type", .string "snippet"), ("value", .string template)]

open Json in
/-- A suggestion in JSON. -/
def Suggestion.toJson (s : Suggestion) : Value :=
  .ofMembers [
    ("channel", .string s.channel.name),
    ("kind", .string s.tag),
    ("label", .string s.label),
    ("insertion", s.insertion.toJson),
    ("boost", .ofOption .ofInt s.boost)]

/-- The suggestions for one request, channel by channel. -/
structure Completions where
  commands : List Suggestion := []
  packages : List Suggestion := []
deriving DecidableEq, Repr

namespace Completions

/-- The suggestions of one channel. -/
def onChannel (cs : Completions) : Channel → List Suggestion
  | .command => cs.commands
  | .packageParameter => cs.packages

/-- Nothing is offered on either channel. -/
def isEmpty (cs : Completions) : Bool :=
  cs.commands.isEmpty && cs.packages.isEmpty

/-- The suggestions of `cs` followed by those of `more`, on each channel. -/
protected def append (cs more : Completions) : Completions :=
  ⟨cs.commands ++ more.commands, cs.packages ++ more.packages⟩

instance : Append Completions := ⟨Completions.append⟩

@[simp] theorem commands_append (cs more : Completions) :
    (cs ++ more).commands = cs.commands ++ more.commands := rfl

@[simp] theorem packages_append (cs more : Completions) :
    (cs ++ more).packages = cs.packages ++ more.packages := rfl

open Json in
/-- Both lists in JSON. -/
def toJson (cs : Completions) : Value :=
  .ofMembers [
    ("commands", .array (cs.commands.map Suggestion.toJson)),
    ("packages", .array (cs.packages.map Suggestion.toJson))]

end Completions

end TexCompletion
