import TexCompletion.Decimal.Shortest

/-!
# Numbers of a JSON document

A number written without fraction and exponent is an integer as long as it fits 64 bits, with or
without sign; every other number is binary floating point.  The two are told apart even where they
are equal, since a place that wants an integer takes `1` and refuses `1.0`.
-/

namespace TexCompletion.Json

/-- A number as it was read. -/
inductive Number where
  | int (n : Int)
  | float (x : Float)

/-- The decimal exponents at which a floating-point number is written without an exponent. -/
def positionalExponents : Int × Int := (-5, 15)

/-- The text of a positive number with the given digits.  Between the bounds of
`positionalExponents` it is positional and always has a fraction; outside it has one digit before
the point and an exponent with a sign. -/
def floatDigits (d : Decimal.Digits) : List Char :=
  let digits := Nat.toDigits 10 d.digits
  let leading : Int := d.exponent + digits.length - 1
  if positionalExponents.1 ≤ leading ∧ leading ≤ positionalExponents.2 then
    if 0 ≤ d.exponent then
      digits ++ List.replicate d.exponent.toNat '0' ++ ['.', '0']
    else if 0 ≤ leading then
      digits.take (leading.toNat + 1) ++ '.' :: digits.drop (leading.toNat + 1)
    else
      '0' :: '.' :: List.replicate (-leading - 1).toNat '0' ++ digits
  else
    let fraction := if digits.length = 1 then [] else '.' :: digits.drop 1
    digits.take 1 ++ fraction ++ 'e' :: (if leading < 0 then '-' else '+') ::
      Nat.toDigits 10 leading.natAbs

/-- The bit that is set in the negative numbers. -/
def signBit : Nat :=
  0x8000000000000000

/-- The text of a finite floating-point number: the fewest digits that read back. -/
def floatText (x : Float) : String :=
  let bits := x.toBits
  let digits :=
    if bits.toNat % signBit = 0 then ['0', '.', '0']
    else floatDigits (Decimal.shortest (Decimal.Binary.ofBits bits))
  String.ofList (if signBit ≤ bits.toNat then '-' :: digits else digits)

/-- The text of a number. -/
def Number.text : Number → String
  | int n => toString n
  | float x => floatText x

end TexCompletion.Json
