import Mathlib.Data.Int.ModEq
import SignedDifference.Outcome.Exactness

/-!
# Outcomes of exact differences

An outcome represents an integer if its word is congruent to the integer and its flag says that the
integer lies outside the range.  Every integer is represented by one outcome, because there is one
word in each residue class (`congruent_iff`).  All methods answer with the outcome of the exact
difference, which fits into 128 bits (`subtract_represents_difference`).
-/

set_option autoImplicit false

namespace SignedDifference

/-- What an outcome says of the integer that it was cut down from. -/
structure Outcome.Represents (outcome : Outcome) (n : Int) : Prop where
  congruent : outcome.wrapped.toInt ≡ n [ZMOD 2 ^ 64]
  overflowed_iff : outcome.overflowed = true ↔ ¬ InRange n

theorem congruent_iff {word : Int64} {n : Int} :
    word.toInt ≡ n [ZMOD 2 ^ 64] ↔ word = Int64.ofInt n := by
  rw [eq_comm, Int64.ofInt_eq_iff_bmod_eq_toInt, Int.ModEq]
  constructor
  · intro congruent
    calc n.bmod (2 ^ 64)
        = (n % 2 ^ 64).bmod (2 ^ 64) := (Int.emod_bmod n (2 ^ 64)).symm
      _ = (word.toInt % 2 ^ 64).bmod (2 ^ 64) := by rw [congruent]
      _ = word.toInt.bmod (2 ^ 64) := Int.emod_bmod word.toInt (2 ^ 64)
      _ = word.toInt := Int64.toInt_bmod word
  · intro reduced
    rw [← reduced]
    exact Int.bmod_emod

theorem Outcome.represents_iff {outcome : Outcome} {n : Int} :
    outcome.Represents n ↔ outcome = ⟨Int64.ofInt n, !decide (InRange n)⟩ := by
  constructor
  · intro represents
    have word := congruent_iff.mp represents.congruent
    have flag : outcome.overflowed = !decide (InRange n) := by
      rw [Bool.eq_iff_iff, represents.overflowed_iff]
      simp
    rw [← word, ← flag]
  · intro same
    subst same
    exact ⟨congruent_iff.mpr rfl, by simp⟩

theorem Method.subtract_eq (method : Method) (a b : Int64) :
    method.subtract a b =
      ⟨Int64.ofInt (exactDifference a b), !decide (InRange (exactDifference a b))⟩ := by
  have word := method.wrapped_subtract a b
  have flag := method.overflowed_subtract a b
  rw [← ofInt_exactDifference] at word
  rw [← word, ← flag]

theorem Method.represents_subtract (method : Method) (a b : Int64) :
    (method.subtract a b).Represents (exactDifference a b) :=
  Outcome.represents_iff.mpr (method.subtract_eq a b)

/-! ## Differences in 128 bits -/

def widen (a : Int64) : BitVec 128 :=
  a.toBitVec.signExtend 128

theorem toInt_widen (a : Int64) : (widen a).toInt = a.toInt :=
  BitVec.toInt_signExtend_of_le (by decide)

theorem ssubOverflow_widen (a b : Int64) : (widen a).ssubOverflow (widen b) = false := by
  have lowA := Int64.le_toInt a
  have highA := Int64.toInt_lt a
  have lowB := Int64.le_toInt b
  have highB := Int64.toInt_lt b
  simp only [BitVec.ssubOverflow, toInt_widen, Bool.or_eq_false_iff, decide_eq_false_iff_not]
  omega

theorem toInt_widen_sub (a b : Int64) : (widen a - widen b).toInt = exactDifference a b := by
  have fits := ssubOverflow_widen a b
  rw [BitVec.toInt_sub_of_not_ssubOverflow (by simp [fits]), toInt_widen, toInt_widen,
    exactDifference]

theorem ofBitVec_setWidth (wide : BitVec 128) :
    Int64.ofBitVec (wide.setWidth 64) = Int64.ofInt wide.toInt := by
  rw [← Int64.toInt_inj, Int64.toInt_ofBitVec, Int64.toInt_ofInt, BitVec.toInt_setWidth,
    BitVec.toInt_eq_toNat_bmod, Int.bmod_bmod_of_dvd (by decide)]

/-- Every method answers with the word that is congruent to the difference and with the flag of its
range.  128 bits hold the difference, and their low half is the word. -/
theorem Method.subtract_represents_difference (a b : Int64) :
    (∀ method : Method,
      (method.subtract a b).Represents (a.toInt - b.toInt) ∧
        (∀ word : Int64,
          word.toInt ≡ a.toInt - b.toInt [ZMOD 2 ^ 64] → word = (method.subtract a b).wrapped) ∧
        ∀ other : Method, other.subtract a b = method.subtract a b) ∧
      exactDifference a b = a.toInt - b.toInt ∧
      (widen a).ssubOverflow (widen b) = false ∧
      (widen a - widen b).toInt = exactDifference a b ∧
      ∀ method : Method,
        Int64.ofBitVec ((widen a - widen b).setWidth 64) = (method.subtract a b).wrapped := by
  refine ⟨?_, rfl, ssubOverflow_widen a b, toInt_widen_sub a b, ?_⟩
  · intro method
    refine ⟨method.represents_subtract a b, ?_, ?_⟩
    · intro word congruent
      rw [method.subtract_eq]
      exact congruent_iff.mp congruent
    · intro other
      rw [method.subtract_eq, other.subtract_eq]
  · intro method
    rw [ofBitVec_setWidth, toInt_widen_sub, method.subtract_eq]

/-- The widest difference takes 65 bits with its sign. -/
example : exactDifference Int64.maxValue Int64.minValue = 2 ^ 64 - 1 ∧
    Method.signRule.subtract Int64.maxValue Int64.minValue = ⟨-1, true⟩ := by
  decide

end SignedDifference
