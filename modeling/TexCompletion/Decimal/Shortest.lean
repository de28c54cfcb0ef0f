/-!
# Shortest decimal of a binary number

The fewest decimal digits that still read back as a given 64-bit binary number.  The number is
taken apart exactly, as `significand * 2 ^ exponent`, and the reals that round to it form an
interval.  On the grids of one, two, … seventeen digits the two neighbours of the number are tested
for being in that interval, in exact integer arithmetic; the first grid with a hit gives the digits.
-/

namespace TexCompletion.Decimal

/-- A positive number `significand * 2 ^ exponent`. -/
structure Binary where
  significand : Nat
  exponent : Int
  /-- The number below is only half as far as the number above. -/
  narrowBelow : Bool
deriving DecidableEq, Repr

/-- The leading bit of a significand, which is not stored: `2 ^ 52`. -/
def hiddenBit : Nat :=
  0x10000000000000

/-- Takes apart the bits of a finite number; the sign is ignored. -/
def Binary.ofBits (bits : UInt64) : Binary :=
  let fraction : Nat := bits.toNat % hiddenBit
  let biased : Nat := bits.toNat / hiddenBit % 0x800
  if biased = 0 then ⟨fraction, -1074, false⟩
  else ⟨hiddenBit + fraction, (biased : Int) - 1075, fraction == 0 && decide (1 < biased)⟩

/-- Digits and a power of ten: the number `digits * 10 ^ exponent`. -/
structure Digits where
  digits : Nat
  exponent : Int
deriving DecidableEq, Repr

/-- Moves zeros at the end of the digits into the exponent. -/
def Digits.strip (fuel : Nat) (d : Digits) : Digits :=
  match fuel with
  | 0 => d
  | fuel + 1 =>
    if d.digits ≠ 0 ∧ d.digits % 10 = 0 then strip fuel ⟨d.digits / 10, d.exponent + 1⟩ else d

/-- The factors `(a, b)` by which `d * 10 ^ k` and `c * 2 ^ q` are compared: the first is at least
the second exactly if `d * a` is at least `c * b`. -/
def scale (k q : Int) : Nat × Nat :=
  (Nat.pow 10 k.toNat * Nat.pow 2 (-q).toNat, Nat.pow 10 (-k).toNat * Nat.pow 2 q.toNat)

/-- The exponent of the first digit of `c * 2 ^ q`, for a positive `c` and a `q` of a 64-bit
number. -/
def leadingExponent (c : Nat) (q : Int) : Int :=
  let shifted := c * Nat.pow 10 400 * Nat.pow 2 q.toNat / Nat.pow 2 (-q).toNat
  ((Nat.toDigits 10 shifted).length : Int) - 401

/-- The point of the grid of step `10 ^ k` that is nearest to the number among those that read back
as it, if the grid has such a point next to the number.  Of two equally near ones it is the even
one. -/
def nearestOnGrid? (x : Binary) (k : Int) : Option Nat :=
  -- four units per step of the significand, so that the ends of the interval are whole
  let (a, b) := scale k (x.exponent - 2)
  let value := 4 * x.significand * b
  let low := (4 * x.significand - if x.narrowBelow then 1 else 2) * b
  let high := (4 * x.significand + 2) * b
  let even := x.significand % 2 == 0
  let inside (d : Nat) : Bool :=
    if even then low ≤ d * a && d * a ≤ high else low < d * a && d * a < high
  let down := value / a
  let up := down + 1
  match inside down, inside up with
  | false, false => none
  | true, false => some down
  | false, true => some up
  | true, true =>
    let below := value - down * a
    let above := up * a - value
    if below < above then some down
    else if above < below then some up
    else if down % 2 = 0 then some down else some up

/-- Tries the grids from `n` digits on, at most `fuel` of them. -/
def shortestFrom (x : Binary) (leading : Int) (n : Nat) : Nat → Digits
  | 0 => ⟨x.significand, x.exponent⟩
  | fuel + 1 =>
    let k := leading - n + 1
    match nearestOnGrid? x k with
    | some d => if d = 0 then shortestFrom x leading (n + 1) fuel else ⟨d, k⟩
    | none => shortestFrom x leading (n + 1) fuel

/-- The fewest digits that read back as the number; zero has the one digit zero. -/
def shortest (x : Binary) : Digits :=
  if x.significand = 0 then ⟨0, 0⟩
  else
    (shortestFrom x (leadingExponent x.significand x.exponent) 1 17).strip 20

end TexCompletion.Decimal
