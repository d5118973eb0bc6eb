import SignedDifference.Proofs.Outcome.Representation

/-!
# What wrapping takes away

The wrapped word of a difference lacks nothing of the exact difference, or it lacks two to the 64th
power in the direction of the overflow (`excess_cases`), which the sign of the minuend tells
(`excess_of_not_inRange`).  No word stays in the range if it takes up an excess
(`inRange_add_excess_iff`).  So a second subtraction from the same minuend finds the subtrahend
again, off by the same excess (`Method.subtract_subtract_cancel`).
-/

set_option autoImplicit false

namespace SignedDifference

/-- What the wrapped word lacks of the exact difference. -/
def excess (a b : Int64) : Int :=
  exactDifference a b - (a - b).toInt

theorem exactDifference_eq (a b : Int64) :
    exactDifference a b = (a - b).toInt + excess a b := by
  rw [excess]
  omega

theorem excess_cases (a b : Int64) :
    (InRange (exactDifference a b) ∧ excess a b = 0) ∨
      (exactDifference a b < leastWord ∧ excess a b = -2 ^ 64) ∨
      (greatestWord < exactDifference a b ∧ excess a b = 2 ^ 64) := by
  rcases Method.toInt_sub_cases a b with ⟨within, word⟩ | ⟨below, word⟩ | ⟨above, word⟩
  · exact Or.inl ⟨within, by rw [excess]; omega⟩
  · exact Or.inr (Or.inl ⟨below, by rw [excess]; omega⟩)
  · exact Or.inr (Or.inr ⟨above, by rw [excess]; omega⟩)

theorem inRange_iff_excess (a b : Int64) : InRange (exactDifference a b) ↔ excess a b = 0 := by
  rcases excess_cases a b with ⟨within, none⟩ | ⟨below, lacks⟩ | ⟨above, lacks⟩
  · exact iff_of_true within none
  · exact iff_of_false (fun within => absurd within.1 (Int.not_le.mpr below)) (by omega)
  · exact iff_of_false (fun within => absurd within.2 (Int.not_le.mpr above)) (by omega)

/-- A difference overflows upwards from a minuend that is not negative, and downwards from one that
is. -/
theorem excess_of_not_inRange {a b : Int64} (outside : ¬ InRange (exactDifference a b)) :
    excess a b = if 0 ≤ a.toInt then 2 ^ 64 else -2 ^ 64 := by
  have lowB := Int64.le_toInt b
  have highB := Int64.toInt_lt b
  rcases excess_cases a b with ⟨within, _⟩ | ⟨below, lacks⟩ | ⟨above, lacks⟩
  · exact absurd within outside
  · simp only [exactDifference, leastWord] at below
    rw [lacks, if_neg (by omega)]
  · simp only [exactDifference, greatestWord] at above
    rw [lacks, if_pos (by omega)]

theorem inRange_add_excess_iff (a b word : Int64) :
    InRange (word.toInt + excess a b) ↔ excess a b = 0 := by
  have low := Int64.le_toInt word
  have high := Int64.toInt_lt word
  simp only [InRange, leastWord, greatestWord]
  rcases excess_cases a b with ⟨_, none⟩ | ⟨_, lacks⟩ | ⟨_, lacks⟩
  · exact iff_of_true (by omega) none
  · exact iff_of_false (by omega) (by omega)
  · exact iff_of_false (by omega) (by omega)

/-! ## Twice from the same minuend -/

theorem sub_sub_self (a b : Int64) : a - (a - b) = b := by
  rw [Int64.sub_eq_iff_eq_add, Int64.add_comm, Int64.sub_add_cancel]

theorem exactDifference_wrapped (a b : Int64) :
    exactDifference a (a - b) = b.toInt + excess a b := by
  simp only [excess, exactDifference]
  omega

theorem inRange_wrapped_iff (a b : Int64) :
    InRange (exactDifference a (a - b)) ↔ InRange (exactDifference a b) := by
  rw [exactDifference_wrapped, inRange_add_excess_iff, inRange_iff_excess]

namespace Method

/-- Whatever the method, subtracting the answer's word from the minuend gives the subtrahend with
the answer's flag. -/
theorem subtract_subtract_cancel (method : Method) (a b : Int64) :
    method.subtract a (method.subtract a b).wrapped =
      { wrapped := b, overflowed := (method.subtract a b).overflowed } := by
  have word : (method.subtract a (a - b)).wrapped = b := by
    rw [wrapped_subtract, sub_sub_self]
  have flag : (method.subtract a (a - b)).overflowed = (method.subtract a b).overflowed := by
    rw [overflowed_subtract, overflowed_subtract, decide_eq_decide.mpr (inRange_wrapped_iff a b)]
  rw [wrapped_subtract]
  calc method.subtract a (a - b)
      = ⟨(method.subtract a (a - b)).wrapped, (method.subtract a (a - b)).overflowed⟩ := rfl
    _ = ⟨b, (method.subtract a b).overflowed⟩ := by rw [word, flag]

/-- From zero the least word is answered by itself, and so again with the same flag. -/
example : Method.signRule.subtract 0 Int64.minValue = ⟨Int64.minValue, true⟩ := by
  decide

end Method

end SignedDifference
