import TexCompletion.Suggestion
import TexCompletion.Text.Blank
import TexCompletion.Text.Units
import TexCompletion.Declaration

/-!
# What the text before the cursor asks for

Two situations call for completion: the cursor stands inside the braces of a `\usepackage`, on a
package name that may be empty, or it stands after a backslash and the letters of a command.
`Trigger.find?` tells which, and where the word under the cursor starts.

The two situations exclude each other, since the word inside the braces cannot hold a backslash
and nothing between the backslash of a command and the cursor is a brace, a comma or a blank.
-/

namespace TexCompletion

open Text

/-- A character of the package name under the cursor. -/
def isNameChar (c : Char) : Bool :=
  c.isAlphanum || c == '_' || c == '-'

/-- A character of the command under the cursor. -/
def isCommandChar (c : Char) : Bool :=
  c.isAlpha || c == '@'

/-- What follows the opening brace of a declaration, after optional options in brackets.  The
options end at the first closing bracket. -/
def openArgument? : List Char → Option (List Char)
  | '\x7b' :: cs => some cs
  | '[' :: cs =>
    match cs.dropWhile (· ≠ ']') with
    | ']' :: '\x7b' :: rest => some rest
    | _ => none
  | _ => none

/-- The text is the beginning of a declaration up to the last name: an opening brace, or names
that are followed by a comma and not yet closed. -/
def opensArgument (cs : List Char) : Bool :=
  match (stripWord? Declaration.keyword cs).bind openArgument? with
  | some names => names.isEmpty || (names.getLast? == some ',' && !names.contains '\x7d')
  | none => false

/-- A place where completion is due. -/
structure Trigger where
  /-- What is being completed. -/
  channel : Channel
  /-- The UTF-16 column where the word under the cursor starts. -/
  start : Nat
deriving DecidableEq, Repr

namespace Trigger

/-- The cursor stands on a package name in the braces of a declaration. -/
def packageName? (before : List Char) : Option Trigger :=
  let rest := dropEndWhile isNameChar before
  if anySuffix opensArgument (dropEndWhile isBlank rest) then
    some ⟨.packageParameter, units16 rest⟩
  else none

/-- The cursor stands after a backslash and the letters of a command. -/
def command? (before : List Char) : Option Trigger :=
  let rest := dropEndWhile isCommandChar before
  if rest.getLast? = some '\\' then some ⟨.command, units16 rest.dropLast⟩ else none

/-- What the line before the cursor asks for, if anything. -/
def find? (before : String) : Option Trigger :=
  packageName? before.toList <|> command? before.toList

end Trigger

end TexCompletion
