import SignedDifference.Outcome

/-!
# Exactness of the methods

Whatever the method, the wrapped word is the word difference and the flag says that the exact
difference lies outside the range (`wrapped_subtract`, `overflowed_subtract`).  The borrows are
compared as natural numbers; the signs are compared by way of the three values that a word
difference can have for a given exact difference (`toInt_sub_cases`).
-/

set_option autoImplicit false

namespace SignedDifference

theorem toInt_of_toUInt64 (a : Int64) :
    (a.toInt = a.toUInt64.toNat ∧ a.toUInt64.toNat < 0x8000000000000000) ∨
      (a.toInt = (a.toUInt64.toNat : Int) - 0x10000000000000000 ∧
        0x8000000000000000 ≤ a.toUInt64.toNat ∧ a.toUInt64.toNat < 0x10000000000000000) := by
  have bits : a.toInt = a.toUInt64.toBitVec.toInt := rfl
  have word : a.toUInt64.toBitVec.toNat = a.toUInt64.toNat := rfl
  have bound := a.toUInt64.toNat_lt
  rw [bits, BitVec.toInt_eq_toNat_cond, word]
  split <;> omega

namespace Method

theorem borrowFlag_eq (a b : Int64) :
    borrowFlag a b = !decide (InRange (exactDifference a b)) := by
  have signA := toInt_of_toUInt64 a
  have signB := toInt_of_toUInt64 b
  have half : (0x8000000000000000 : UInt64).toNat = 0x8000000000000000 := rfl
  simp only [borrowFlag, UInt64.lt_iff_toNat_lt, UInt64.toNat_mod, half]
  generalize a.toUInt64.toNat = x at *
  generalize b.toUInt64.toNat = y at *
  by_cases borrowIn : x % 0x8000000000000000 < y % 0x8000000000000000 <;>
    by_cases borrowOut : x < y <;> by_cases inRange : InRange (exactDifference a b) <;>
    simp only [borrowIn, borrowOut, inRange, decide_true, decide_false, bne_self_eq_false,
      Bool.not_false] <;>
    simp only [InRange, exactDifference, leastWord, greatestWord] at inRange <;>
    first | rfl | (exfalso; omega)

theorem ofInt_exactDifference (a b : Int64) : Int64.ofInt (exactDifference a b) = a - b := by
  rw [← Int64.toInt_inj, Int64.toInt_ofInt, Int64.toInt_sub, exactDifference]

theorem toInt_sub_cases (a b : Int64) :
    (InRange (exactDifference a b) ∧ (a - b).toInt = exactDifference a b) ∨
      (exactDifference a b < leastWord ∧
        (a - b).toInt = exactDifference a b + 0x10000000000000000) ∨
      (greatestWord < exactDifference a b ∧
        (a - b).toInt = exactDifference a b - 0x10000000000000000) := by
  have lowA := Int64.le_toInt a
  have highA := Int64.toInt_lt a
  have lowB := Int64.le_toInt b
  have highB := Int64.toInt_lt b
  rw [Int64.toInt_sub, Int.bmod_def]
  simp only [InRange, exactDifference, leastWord, greatestWord]
  split <;> omega

theorem signFlag_eq (a b : Int64) :
    signFlag a b (a - b) = !decide (InRange (exactDifference a b)) := by
  have wrapped := toInt_sub_cases a b
  have lowA := Int64.le_toInt a
  have highA := Int64.toInt_lt a
  have lowB := Int64.le_toInt b
  have highB := Int64.toInt_lt b
  rw [Bool.eq_iff_iff]
  simp only [signFlag, Bool.or_eq_true, Bool.and_eq_true, decide_eq_true_eq, Bool.not_eq_true',
    decide_eq_false_iff_not, Int64.le_iff_toInt_le, Int64.lt_iff_toInt_lt, Int64.toInt_zero]
  generalize (a - b).toInt = w at *
  simp only [InRange, exactDifference, leastWord, greatestWord] at *
  omega

theorem wrapped_subtract (method : Method) (a b : Int64) :
    (method.subtract a b).wrapped = a - b := by
  cases method with
  | native => rfl
  | widened => exact ofInt_exactDifference a b
  | signRule => rfl

theorem overflowed_subtract (method : Method) (a b : Int64) :
    (method.subtract a b).overflowed = !decide (InRange (exactDifference a b)) := by
  cases method with
  | native => exact borrowFlag_eq a b
  | widened => rfl
  | signRule => exact signFlag_eq a b

end Method

end SignedDifference
