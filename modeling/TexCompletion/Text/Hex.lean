/-!
# Hexadecimal digits

A digit is a number below sixteen.  Reading takes letters of either case, writing gives small
letters, so a written digit reads back (`hexValue?_hexDigit`) and what is read is written in small
letters (`hexDigit_of_hexValue?`).
-/

namespace TexCompletion.Text

/-- The last hexadecimal digit of a number. -/
def lowDigit (n : Nat) : Fin 16 :=
  ⟨n % 16, Nat.mod_lt n (by decide)⟩

/-- The value of a hexadecimal digit. -/
def hexValue? (c : Char) : Option (Fin 16) :=
  if '0' ≤ c ∧ c ≤ '9' then some (lowDigit (c.toNat - '0'.toNat))
  else if 'a' ≤ c ∧ c ≤ 'f' then some (lowDigit (c.toNat - 'a'.toNat + 10))
  else if 'A' ≤ c ∧ c ≤ 'F' then some (lowDigit (c.toNat - 'A'.toNat + 10))
  else none

/-- The digit of a value, in small letters. -/
def hexDigit (d : Fin 16) : Char :=
  Nat.digitChar d.val

/-- A written digit reads back. -/
theorem hexValue?_hexDigit (d : Fin 16) : hexValue? (hexDigit d) = some d := by
  revert d
  decide

/-- What is read as a digit is written in small letters. -/
theorem hexDigit_of_hexValue? {c : Char} {d : Fin 16} (h : hexValue? c = some d) :
    hexDigit d = c.toLower := by
  have below : c.toNat < 128 := by
    unfold hexValue? at h
    split at h
    next hc => exact Nat.lt_of_le_of_lt (show c.toNat ≤ '9'.toNat from hc.2) (by decide)
    next =>
      split at h
      next hc => exact Nat.lt_of_le_of_lt (show c.toNat ≤ 'f'.toNat from hc.2) (by decide)
      next =>
        split at h
        next hc => exact Nat.lt_of_le_of_lt (show c.toNat ≤ 'F'.toNat from hc.2) (by decide)
        next => simp at h
  have all : ∀ n : Fin 128, ∀ d : Fin 16,
      hexValue? (Char.ofNat n) = some d → hexDigit d = (Char.ofNat n).toLower := by
    decide
  have := all ⟨c.toNat, below⟩ d
  simp only [Char.ofNat_toNat] at this
  exact this h

end TexCompletion.Text
