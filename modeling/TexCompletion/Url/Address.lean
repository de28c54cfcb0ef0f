import TexCompletion.Text.Hex
import TexCompletion.Text.Split
import TexCompletion.Url.Error

/-!
# Internet addresses

The numeric hosts of URLs.  A version 4 address has one to four parts, which may be decimal, octal
or hexadecimal, and the last part fills all the bytes that are left; it is written as four decimal
bytes.  A version 6 address has eight groups of sixteen bits; one run of zeros may be left out and
the last two groups may be a version 4 address.  It is written with the first longest run left out.
-/

namespace TexCompletion.Url

open Text

/-- The number that digits stand for, if all of them are below the base. -/
def digitsIn? (base : Nat) (cs : List Char) : Option Nat :=
  cs.foldlM (fun n c => do
    let d ← hexValue? c
    if d.val < base then some (n * base + d.val) else none) 0

/-! ## Version 4 -/

/-- A part of a version 4 address: hexadecimal after `0x`, octal after `0`, else decimal. -/
def ipv4Part? : List Char → Option Nat
  | [] => none
  | '0' :: 'x' :: cs | '0' :: 'X' :: cs => digitsIn? 16 cs
  | '0' :: c :: cs => digitsIn? 8 (c :: cs)
  | cs => digitsIn? 10 cs

/-- The parts of a domain name; a dot at its end does not count. -/
def domainParts (cs : List Char) : List (List Char) :=
  let parts := splitWhere (· = '.') cs
  if 1 < parts.length ∧ parts.getLast? = some [] then parts.dropLast else parts

/-- The last part of a domain name is a number, so the name must be an address. -/
def endsInNumber (cs : List Char) : Bool :=
  match (domainParts cs).getLast? with
  | none => false
  | some part => (!part.isEmpty && part.all Char.isDigit) || (ipv4Part? part).isSome

/-- Reads a version 4 address as a number of 32 bits. -/
def ipv4? (cs : List Char) : Option Nat := do
  let numbers ← (domainParts cs).mapM ipv4Part?
  let last ← numbers.getLast?
  let bytes := numbers.dropLast
  let room := Nat.pow 256 (4 - bytes.length)
  if numbers.length ≤ 4 ∧ bytes.all (· < 256) ∧ last < room then
    some (bytes.foldl (fun n byte => n * 256 + byte) 0 * room + last)
  else none

/-- A version 4 address as four bytes. -/
def ipv4Text (n : Nat) : String :=
  ".".intercalate ([0x1000000, 0x10000, 0x100, 1].map fun place => toString (n / place % 256))

/-! ## Version 6 -/

/-- A byte of a version 4 address inside a version 6 address: decimal without leading zeros. -/
def decimalByte? (cs : List Char) : Option Nat := do
  let n ← digitsIn? 10 cs
  if cs ≠ [] ∧ n < 256 ∧ (cs.head? ≠ some '0' ∨ cs.length = 1) then some n else none

/-- A group of four hexadecimal digits at most. -/
def group? (cs : List Char) : Option Nat :=
  if cs ≠ [] ∧ cs.length ≤ 4 then digitsIn? 16 cs else none

/-- The groups between colons, of which the last may be a version 4 address if `last` says so. -/
def groups? (last : Bool) (cs : List Char) : Option (List Nat) := do
  if cs.isEmpty then return []
  let parts := splitWhere (· = ':') cs
  match parts.getLast? with
  | some tail =>
    if last ∧ '.' ∈ tail then
      let front ← parts.dropLast.mapM group?
      match ← (splitWhere (· = '.') tail).mapM decimalByte? with
      | [a, b, c, d] => return front ++ [a * 256 + b, c * 256 + d]
      | _ => none
    else parts.mapM group?
  | none => none

/-- Cuts a text at the first double colon. -/
def cutDoubleColon : List Char → Option (List Char × List Char)
  | ':' :: ':' :: cs => some ([], cs)
  | c :: cs => (cutDoubleColon cs).map fun (before, after) => (c :: before, after)
  | [] => none

/-- Reads a version 6 address as eight groups.  A double colon stands for at least one group. -/
def ipv6? (cs : List Char) : Option (List Nat) :=
  match cutDoubleColon cs with
  | none => do
    let groups ← groups? true cs
    if groups.length = 8 then some groups else none
  | some (before, after) => do
    let front ← groups? false before
    let back ← groups? true after
    if front.length + back.length ≤ 7 then
      some (front ++ List.replicate (8 - front.length - back.length) 0 ++ back)
    else none

/-- The length of the run of zeros at the start of a list. -/
def zerosAhead (groups : List Nat) : Nat :=
  (groups.takeWhile (· = 0)).length

/-- The longest run of zeros. -/
def longestZeros : List Nat → Nat
  | [] => 0
  | g :: gs => max (zerosAhead (g :: gs)) (longestZeros gs)

/-- Groups with colons between them. -/
def groupsText (groups : List Nat) : String :=
  ":".intercalate (groups.map fun g => String.ofList (Nat.toDigits 16 g))

/-- Cuts out the first run of `count` zeros. -/
def cutZeros (count : Nat) : List Nat → List Nat × List Nat
  | [] => ([], [])
  | g :: gs =>
    if zerosAhead (g :: gs) = count then ([], (g :: gs).drop count)
    else
      let (before, after) := cutZeros count gs
      (g :: before, after)

/-- A version 6 address with its first longest run of two zeros or more left out. -/
def ipv6Text (groups : List Nat) : String :=
  let count := longestZeros groups
  if count < 2 then groupsText groups
  else
    let (before, after) := cutZeros count groups
    groupsText before ++ "::" ++ groupsText after

end TexCompletion.Url
