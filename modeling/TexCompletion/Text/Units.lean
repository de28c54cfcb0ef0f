/-!
# Lengths in bytes and in UTF-16 units

An editor counts columns in UTF-16 code units, an offset into a document counts UTF-8 bytes, and
the library itself works on characters.  This file holds the two measures.
-/

namespace TexCompletion.Text

/-- How many UTF-16 code units a character takes: two outside the Basic Multilingual Plane. -/
def units (c : Char) : Nat :=
  if c.toNat ≤ 0xFFFF then 1 else 2

theorem units_pos (c : Char) : 0 < units c := by
  unfold units; split <;> decide

/-- The length of a text in UTF-16 code units. -/
def units16 : List Char → Nat
  | [] => 0
  | c :: cs => units c + units16 cs

/-- The length of a text in UTF-8 bytes. -/
def bytes8 : List Char → Nat
  | [] => 0
  | c :: cs => c.utf8Size + bytes8 cs

@[simp] theorem units16_nil : units16 [] = 0 := rfl

@[simp] theorem units16_cons (c : Char) (cs : List Char) :
    units16 (c :: cs) = units c + units16 cs := rfl

@[simp] theorem units16_append (as bs : List Char) :
    units16 (as ++ bs) = units16 as + units16 bs := by
  induction as with
  | nil => simp
  | cons a as ih => simp [ih, Nat.add_assoc]

@[simp] theorem bytes8_nil : bytes8 [] = 0 := rfl

@[simp] theorem bytes8_cons (c : Char) (cs : List Char) :
    bytes8 (c :: cs) = c.utf8Size + bytes8 cs := rfl

@[simp] theorem bytes8_append (as bs : List Char) :
    bytes8 (as ++ bs) = bytes8 as + bytes8 bs := by
  induction as with
  | nil => simp
  | cons a as ih => simp [ih, Nat.add_assoc]

end TexCompletion.Text
