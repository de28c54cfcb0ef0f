/-!
# Punycode

The spelling of a label with characters outside ASCII in the letters, digits and hyphens of a domain
name.  The ASCII characters come first.  The others follow in ascending order, each as the distance
from the one before, where a distance counts characters and places together.  Distances are written
in a variable-length notation of base 36 whose digit thresholds follow the sizes seen so far.
-/

namespace TexCompletion.Url.Punycode

/-! ## Thresholds -/

/-- The number of digit values. -/
def base : Nat := 36

/-- Digits at place `k` that are below the threshold end a number. -/
def threshold (k bias : Nat) : Nat :=
  if k ≤ bias then 1 else min 26 (k - bias)

theorem threshold_pos (k bias : Nat) : 0 < threshold k bias := by
  unfold threshold; split <;> omega

/-- The bias that fits numbers like `delta`. -/
def settle (delta k : Nat) : Nat :=
  if 455 < delta then settle (delta / 35) (k + base) else k + 36 * delta / (delta + 38)
termination_by delta
decreasing_by omega

/-- The bias after a distance was written; the first one says little about the next, so it counts
less. -/
def adapt (delta count : Nat) (first : Bool) : Nat :=
  let d := if first then delta / 700 else delta / 2
  settle (d + d / count) 0

/-- The bias of the first distance. -/
def firstBias : Nat := 72

/-! ## Writing -/

/-- The character of a digit value. -/
def digitChar (d : Nat) : Char :=
  if d < 26 then Char.ofNat ('a'.toNat + d) else Char.ofNat ('0'.toNat + d - 26)

/-- A distance, from place `k` on. -/
def writeDistance (bias k q : Nat) : List Char :=
  let t := threshold k bias
  if q < t then [digitChar q]
  else digitChar (t + (q - t) % (base - t)) :: writeDistance bias (k + base) ((q - t) / (base - t))
termination_by q
decreasing_by
  have := threshold_pos k bias
  have := Nat.div_le_self (q - threshold k bias) (base - threshold k bias)
  omega

/-- What was written so far, and what the next distance counts. -/
structure Progress where
  written : List Char
  delta : Nat
  bias : Nat
  handled : Nat

/-- Passes a character of the label while the characters with code point `n` are written; `plain` is
how many of ASCII there are. -/
def pass (plain n : Nat) (p : Progress) (c : Char) : Progress :=
  if c.toNat < n then { p with delta := p.delta + 1 }
  else if c.toNat = n then
    ⟨p.written ++ writeDistance p.bias base p.delta, 0,
      adapt p.delta (p.handled + 1) (p.handled == plain), p.handled + 1⟩
  else p

/-- Writes the characters with the code points of an ascending list, the last of which was written
before `n`. -/
def writeFrom (label : List Char) (plain n : Nat) : List Nat → Progress → Progress
  | [], p => p
  | m :: ms, p =>
    let p := label.foldl (pass plain m) { p with delta := p.delta + (m - n) * (p.handled + 1) }
    writeFrom label plain (m + 1) ms { p with delta := p.delta + 1 }

/-- A label in Punycode. -/
def encode (label : List Char) : List Char :=
  let plain := label.filter (·.toNat < 0x80)
  let others := ((label.map Char.toNat).filter (0x80 ≤ ·)).mergeSort.eraseDups
  let start : Progress := ⟨[], 0, firstBias, plain.length⟩
  plain ++ (if plain.isEmpty then [] else ['-']) ++
    (writeFrom label plain.length 0x80 others start).written

/-! ## Reading -/

/-- The value of a digit. -/
def digitValue? (c : Char) : Option Nat :=
  if c.isDigit then some (c.toNat - '0'.toNat + 26)
  else if c.isAlpha then some (c.toLower.toNat - 'a'.toNat)
  else none

/-- Reads a distance from place `k` on, where a digit counts `weight` times, and returns what
follows. -/
def readDistance? (bias : Nat) : List Char → Nat → Nat → Nat → Option (Nat × List Char)
  | [], _, _, _ => none
  | c :: cs, k, weight, value => do
    let d ← digitValue? c
    let t := threshold k bias
    if d < t then return (value + d * weight, cs)
    else readDistance? bias cs (k + base) (weight * (base - t)) (value + d * weight)

/-- Puts characters at the places that the distances give.  Each distance takes a digit at least, so
`fuel` may be the length of the text. -/
def readFrom? (fuel n place bias : Nat) (label cs : List Char) : Option (List Char) :=
  match fuel, cs with
  | _, [] => some label
  | 0, _ => none
  | fuel + 1, cs => do
    let (distance, rest) ← readDistance? bias cs base 1 0
    let count := label.length + 1
    let n := n + (place + distance) / count
    let here := (place + distance) % count
    if n.isValidChar then
      readFrom? fuel n (here + 1) (adapt distance count (place == 0))
        (label.take here ++ Char.ofNat n :: label.drop here) rest
    else none

/-- The label that a text in Punycode spells.  The last hyphen ends the ASCII characters. -/
def decode? (cs : List Char) : Option (List Char) :=
  let digits := (cs.reverse.takeWhile (· ≠ '-')).reverse
  let plain := cs.take (cs.length - digits.length - 1)
  if plain.all (·.toNat < 0x80) then
    readFrom? digits.length 0x80 0 firstBias plain digits
  else none

end TexCompletion.Url.Punycode
