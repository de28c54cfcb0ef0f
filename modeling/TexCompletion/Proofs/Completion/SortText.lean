import Mathlib.Algebra.Group.Nat.Defs
import TexCompletion.Completion.Item

/-!
# Sorting by text

Editors sort items by a text, character by character.  The text of an item is its rank, a number of
five digits, followed by its label, and the rank falls as the boost rises.  The main statement,
`sortText_lt_iff`, says that this is the order meant: by the boosts, the higher first, and by the
labels among equal boosts.

* **Texts of digits** that are equally long are in the order of their numbers
  (`lt_iff_ofDigitChars_lt`).
* **A rank has five digits**, however large the boost (`length_fiveDigits`, `rank_eq`), so what
  follows it counts only among equal ranks (`append_lt_append_iff`).

A boost is a number of 32 bits in the settings, and the rank is too: working it out on 32 bits gives
the same number (`toInt_rank32`).
-/

namespace TexCompletion

/-! ## Texts in order -/

namespace Text

/-- Among texts with beginnings of the same length, what follows counts if the beginnings are the
same. -/
theorem append_lt_append_iff {as bs : List Char} (h : as.length = bs.length) (xs ys : List Char) :
    as ++ xs < bs ++ ys ↔ as < bs ∨ as = bs ∧ xs < ys := by
  induction as generalizing bs with
  | nil =>
    obtain rfl := List.length_eq_zero_iff.mp h.symm
    simp
  | cons a as ih =>
    obtain ⟨b, bs, rfl⟩ := List.exists_cons_of_length_eq_add_one h.symm
    rw [List.cons_append, List.cons_append, List.cons_lt_cons_iff, List.cons_lt_cons_iff,
      ih (Nat.succ.inj h), List.cons.injEq, and_or_left, and_assoc, or_assoc]

/-- The first digit is worth ten times more for each digit behind it. -/
theorem ofDigitChars_cons_zero (d : Char) (ds : List Char) :
    Nat.ofDigitChars 10 (d :: ds) 0 =
      10 ^ ds.length * (d.toNat - '0'.toNat) + Nat.ofDigitChars 10 ds 0 := by
  rw [Nat.ofDigitChars_cons, Nat.ofDigitChars_eq_ofDigitChars_zero, Nat.mul_zero, Nat.zero_add]

theorem ofDigitChars_lt {ds : List Char} (h : ∀ d ∈ ds, d.isDigit = true) :
    Nat.ofDigitChars 10 ds 0 < 10 ^ ds.length := by
  induction ds with
  | nil => decide
  | cons d ds ih =>
    have hd : d.toNat ≤ '9'.toNat := (Char.isDigit_iff_toNat.mp (h d List.mem_cons_self)).2
    have hdigit : d.toNat - '0'.toNat ≤ 9 := Nat.sub_le_of_le_add hd
    calc Nat.ofDigitChars 10 (d :: ds) 0
        = 10 ^ ds.length * (d.toNat - '0'.toNat) + Nat.ofDigitChars 10 ds 0 :=
          ofDigitChars_cons_zero d ds
      _ < 10 ^ ds.length * 9 + 10 ^ ds.length :=
          Nat.add_lt_add_of_le_of_lt (Nat.mul_le_mul_left _ hdigit)
            (ih fun e he => h e (List.mem_cons_of_mem d he))
      _ = 10 ^ (d :: ds).length := by
          rw [List.length_cons, Nat.pow_succ]
          omega

/-- With remainders below `n`, the multiples of `n` decide, and the remainders where these agree. -/
theorem mul_add_lt_mul_add_iff {n a b x y : Nat} (hx : x < n) (hy : y < n) :
    n * a + x < n * b + y ↔ a < b ∨ a = b ∧ x < y := by
  rcases Nat.lt_trichotomy a b with h | rfl | h
  · have hstep : n * a + n ≤ n * b := Nat.mul_le_mul_left n h
    exact iff_of_true (by omega) (.inl h)
  · simp
  · have hstep : n * b + n ≤ n * a := Nat.mul_le_mul_left n h
    exact iff_of_false (by omega) (by omega)

/-- Texts of digits that are equally long are in the order of the numbers that they stand for. -/
theorem lt_iff_ofDigitChars_lt {ds es : List Char} (hlength : ds.length = es.length)
    (hds : ∀ d ∈ ds, d.isDigit = true) (hes : ∀ e ∈ es, e.isDigit = true) :
    ds < es ↔ Nat.ofDigitChars 10 ds 0 < Nat.ofDigitChars 10 es 0 := by
  induction ds generalizing es with
  | nil =>
    obtain rfl := List.length_eq_zero_iff.mp hlength.symm
    simp
  | cons d ds ih =>
    obtain ⟨e, es, rfl⟩ := List.exists_cons_of_length_eq_add_one hlength.symm
    obtain ⟨hd, hds⟩ := List.forall_mem_cons.mp hds
    obtain ⟨he, hes⟩ := List.forall_mem_cons.mp hes
    have hrest : ds.length = es.length := Nat.succ.inj hlength
    have hd0 : '0'.toNat ≤ d.toNat := (Char.isDigit_iff_toNat.mp hd).1
    have he0 : '0'.toNat ≤ e.toNat := (Char.isDigit_iff_toNat.mp he).1
    have hlt : d < e ↔ d.toNat - '0'.toNat < e.toNat - '0'.toNat := by
      rw [Nat.sub_lt_sub_iff_right hd0]
      rfl
    have heq : d = e ↔ d.toNat - '0'.toNat = e.toNat - '0'.toNat := by
      rw [← Char.toNat_inj]
      omega
    have hds_lt : Nat.ofDigitChars 10 ds 0 < 10 ^ es.length := hrest ▸ ofDigitChars_lt hds
    rw [List.cons_lt_cons_iff, ih hrest hds hes, ofDigitChars_cons_zero, ofDigitChars_cons_zero,
      hrest, mul_add_lt_mul_add_iff hds_lt (ofDigitChars_lt hes), hlt, heq]

end Text

namespace Completion

open Text

/-! ## Ranks -/

theorem rank_eq (boost : Option Int) :
    (rank boost : Int) = 10000 - max (-9999) (min 9999 (boost.getD 0)) := by
  unfold rank clampBoost boostLimit
  omega

theorem rank_lt (boost : Option Int) : rank boost < 100000 := by
  have := rank_eq boost
  omega

/-- A rank in five digits stands for the rank. -/
theorem ofDigitChars_fiveDigits (n : Nat) : Nat.ofDigitChars 10 (fiveDigits n) 0 = n := by
  rw [fiveDigits, Nat.ofDigitChars_append, Nat.ofDigitChars_replicate_zero, Nat.mul_zero,
    Nat.ofDigitChars_ten_toDigits]

theorem isDigit_of_mem_fiveDigits {n : Nat} : ∀ d ∈ fiveDigits n, d.isDigit = true := by
  intro d hd
  rcases List.mem_append.mp hd with hd | hd
  · rw [List.eq_of_mem_replicate hd]
    rfl
  · exact Nat.isDigit_of_mem_toDigits (by decide) (by decide) hd

theorem length_fiveDigits {n : Nat} (h : n < 100000) : (fiveDigits n).length = 5 := by
  have hdigits : (Nat.toDigits 10 n).length ≤ 5 :=
    (Nat.length_toDigits_le_iff (by decide) (by decide)).mpr h
  rw [fiveDigits, List.length_append, List.length_replicate, Nat.sub_add_cancel hdigits]

/-- The lower rank comes first. -/
theorem fiveDigits_lt_iff {m n : Nat} (hm : m < 100000) (hn : n < 100000) :
    fiveDigits m < fiveDigits n ↔ m < n := by
  have hlength : (fiveDigits m).length = (fiveDigits n).length := by
    rw [length_fiveDigits hm, length_fiveDigits hn]
  rw [lt_iff_ofDigitChars_lt hlength isDigit_of_mem_fiveDigits isDigit_of_mem_fiveDigits,
    ofDigitChars_fiveDigits, ofDigitChars_fiveDigits]

theorem fiveDigits_inj {m n : Nat} : fiveDigits m = fiveDigits n ↔ m = n := by
  refine ⟨fun h => ?_, congrArg fiveDigits⟩
  rw [← ofDigitChars_fiveDigits m, h, ofDigitChars_fiveDigits]

/-! ## Sort texts -/

/-- **The order of sort texts.**  Of two items the one with the higher boost comes first, and among
equal boosts the label decides.  No boost is the boost zero, and a boost counts only up to the limits. -/
theorem sortText_lt_iff (a b : Option Int) (x y : String) :
    sortText a x < sortText b y ↔
      max (-9999) (min 9999 (b.getD 0)) < max (-9999) (min 9999 (a.getD 0)) ∨
        max (-9999) (min 9999 (a.getD 0)) = max (-9999) (min 9999 (b.getD 0)) ∧ x < y := by
  have ha := rank_eq a
  have hb := rank_eq b
  have hlength : (fiveDigits (rank a)).length = (fiveDigits (rank b)).length := by
    rw [length_fiveDigits (rank_lt a), length_fiveDigits (rank_lt b)]
  have hlt : rank a < rank b ↔
      max (-9999) (min 9999 (b.getD 0)) < max (-9999) (min 9999 (a.getD 0)) := by omega
  have heq : rank a = rank b ↔
      max (-9999) (min 9999 (a.getD 0)) = max (-9999) (min 9999 (b.getD 0)) := by omega
  rw [String.lt_iff, sortText, sortText, String.toList_append, String.toList_append,
    String.toList_ofList, String.toList_ofList, append_lt_append_iff hlength,
    fiveDigits_lt_iff (rank_lt a) (rank_lt b), fiveDigits_inj, hlt, heq, String.lt_iff]

/-! ## Ranks on 32 bits -/

/-- A boost of 32 bits within the limits. -/
def clampBoost32 (boost : Int32) : Int32 :=
  if boost < -9999 then -9999 else if 9999 < boost then 9999 else boost

/-- The rank of a boost of 32 bits, worked out on 32 bits. -/
def rank32 (boost : Option Int32) : Int32 :=
  10000 - clampBoost32 (boost.getD 0)

theorem toInt_clampBoost32 (boost : Int32) :
    (clampBoost32 boost).toInt = max (-9999) (min 9999 boost.toInt) := by
  have hlow : boost < -9999 ↔ boost.toInt < -9999 := Int32.lt_iff_toInt_lt
  have hhigh : 9999 < boost ↔ 9999 < boost.toInt := Int32.lt_iff_toInt_lt
  have hlow_toInt : (-9999 : Int32).toInt = -9999 := by decide
  have hhigh_toInt : (9999 : Int32).toInt = 9999 := by decide
  simp only [clampBoost32, hlow, hhigh]
  split
  next h =>
    rw [hlow_toInt]
    omega
  next h =>
    split
    next h' =>
      rw [hhigh_toInt]
      omega
    next h' => omega

theorem getD_map_toInt (boost : Option Int32) :
    (boost.map Int32.toInt).getD 0 = (boost.getD 0).toInt := by
  cases boost <;> rfl

/-- The subtraction does not overflow, so the rank on 32 bits is the rank. -/
theorem toInt_rank32 (boost : Option Int32) :
    (rank32 boost).toInt = rank (boost.map Int32.toInt) := by
  have hclamp := toInt_clampBoost32 (boost.getD 0)
  have hten : (10000 : Int32).toInt = 10000 := by decide
  rw [rank_eq, getD_map_toInt, rank32, Int32.toInt_sub, hclamp, hten]
  exact Int.bmod_eq_of_le (by omega) (by omega)

end Completion

end TexCompletion
