import SignedDifference.Proofs.Outcome.Representation

/-!
# Differences found again

An outcome has one bit more than its word, which is enough to hold a difference of two words.
Behind an overflow the difference is two to the 64th power away from the word, and the sign of the
word tells on which side (`Outcome.unwrapped`).  This is the only integer of 65 bits that the
outcome represents (`Outcome.represents_unwrapped`, `Outcome.Represents.unique`).  So each answer of
a method gives its difference back (`Method.subtract_determines_difference`).
-/

set_option autoImplicit false

namespace SignedDifference

/-- The integers that fit into 65 bits, with their sign. -/
def InDoubleRange (n : Int) : Prop := -2 ^ 64 ≤ n ∧ n < 2 ^ 64

theorem inDoubleRange_exactDifference (a b : Int64) : InDoubleRange (exactDifference a b) := by
  have lowA := Int64.le_toInt a
  have highA := Int64.toInt_lt a
  have lowB := Int64.le_toInt b
  have highB := Int64.toInt_lt b
  rw [InDoubleRange, exactDifference]
  omega

namespace Outcome

variable {outcome : Outcome} {m n : Int}

/-- The integer of 65 bits that an outcome was cut down from. -/
def unwrapped (outcome : Outcome) : Int :=
  if outcome.overflowed then
    if outcome.wrapped < 0 then outcome.wrapped.toInt + 2 ^ 64 else outcome.wrapped.toInt - 2 ^ 64
  else outcome.wrapped.toInt

theorem unwrapped_cases (outcome : Outcome) :
    (outcome.overflowed = false ∧ outcome.unwrapped = outcome.wrapped.toInt) ∨
      (outcome.overflowed = true ∧ outcome.wrapped.toInt < 0 ∧
        outcome.unwrapped = outcome.wrapped.toInt + 2 ^ 64) ∨
      (outcome.overflowed = true ∧ 0 ≤ outcome.wrapped.toInt ∧
        outcome.unwrapped = outcome.wrapped.toInt - 2 ^ 64) := by
  unfold unwrapped
  by_cases overflowed : outcome.overflowed = true
  · by_cases negative : outcome.wrapped < 0
    · refine Or.inr (Or.inl ⟨overflowed, Int64.lt_iff_toInt_lt.mp negative, ?_⟩)
      rw [if_pos overflowed, if_pos negative]
    · refine Or.inr (Or.inr ⟨overflowed, Int64.le_iff_toInt_le.mp (Int64.not_lt.mp negative), ?_⟩)
      rw [if_pos overflowed, if_neg negative]
  · exact Or.inl ⟨Bool.eq_false_of_not_eq_true overflowed, if_neg overflowed⟩

theorem inDoubleRange_unwrapped (outcome : Outcome) : InDoubleRange outcome.unwrapped := by
  have low := Int64.le_toInt outcome.wrapped
  have high := Int64.toInt_lt outcome.wrapped
  rw [InDoubleRange]
  rcases unwrapped_cases outcome with ⟨_, same⟩ | ⟨_, _, above⟩ | ⟨_, _, below⟩ <;> omega

theorem represents_unwrapped (outcome : Outcome) : outcome.Represents outcome.unwrapped := by
  have low := Int64.le_toInt outcome.wrapped
  have high := Int64.toInt_lt outcome.wrapped
  have cases := unwrapped_cases outcome
  constructor
  · rw [Int.ModEq]
    rcases cases with ⟨_, same⟩ | ⟨_, _, above⟩ | ⟨_, _, below⟩ <;> omega
  · rw [InRange, leastWord, greatestWord]
    rcases cases with ⟨flag, same⟩ | ⟨flag, negative, above⟩ | ⟨flag, positive, below⟩
    · exact iff_of_false (by simp [flag]) (by omega)
    · exact iff_of_true flag (by omega)
    · exact iff_of_true flag (by omega)

/-- Of the integers of 65 bits that are congruent to a word, one lies inside the range and one
outside. -/
theorem Represents.unique (first : outcome.Represents m) (second : outcome.Represents n)
    (boundFirst : InDoubleRange m) (boundSecond : InDoubleRange n) : m = n := by
  have congruent : m % 2 ^ 64 = n % 2 ^ 64 := first.congruent.symm.trans second.congruent
  have together : InRange m ↔ InRange n :=
    not_iff_not.mp (first.overflowed_iff.symm.trans second.overflowed_iff)
  simp only [InRange, leastWord, greatestWord] at together
  rw [InDoubleRange] at boundFirst boundSecond
  omega

end Outcome

namespace Method

theorem unwrapped_subtract (method : Method) (a b : Int64) :
    (method.subtract a b).unwrapped = exactDifference a b :=
  (method.subtract a b).represents_unwrapped.unique (method.represents_subtract a b)
    (method.subtract a b).inDoubleRange_unwrapped (inDoubleRange_exactDifference a b)

/-- Whichever methods answer, the answers for two pairs of operands are the same exactly when the
exact differences are.  Without an overflow the difference is the word of the answer, and behind
one it is two to the 64th power above a word that is negative and as much below any other. -/
theorem subtract_determines_difference :
    (∀ (method other : Method) (a b c d : Int64),
      method.subtract a b = other.subtract c d ↔ exactDifference a b = exactDifference c d) ∧
      ∀ (method : Method) (a b : Int64),
        exactDifference a b =
          if (method.subtract a b).overflowed then
            if (method.subtract a b).wrapped < 0 then
              (method.subtract a b).wrapped.toInt + 2 ^ 64
            else (method.subtract a b).wrapped.toInt - 2 ^ 64
          else (method.subtract a b).wrapped.toInt := by
  constructor
  · intro method other a b c d
    constructor
    · intro same
      rw [← method.unwrapped_subtract a b, same, other.unwrapped_subtract]
    · intro same
      rw [method.subtract_eq, other.subtract_eq, same]
  · intro method a b
    exact (method.unwrapped_subtract a b).symm

/-- The widest differences of both signs. -/
example : (Method.signRule.subtract Int64.maxValue Int64.minValue).unwrapped = 2 ^ 64 - 1 ∧
    (Method.signRule.subtract Int64.minValue Int64.maxValue).unwrapped = 1 - 2 ^ 64 := by
  decide

end Method

end SignedDifference
