import SignedDifference.Proofs.Outcome.Representation

/-!
# Swapped operands

Swapping the operands negates the exact difference, and with it the wrapped word.  The range reaches
one further below zero than above, so a negated integer leaves or enters it at two to the 63rd power
and nowhere else (`inRange_neg_iff`).  There the two orders of the operands answer with different
flags (`Method.subtract_swap`).
-/

set_option autoImplicit false

namespace SignedDifference

theorem exactDifference_swap (a b : Int64) : exactDifference b a = -exactDifference a b :=
  (Int.neg_sub a.toInt b.toInt).symm

theorem inRange_neg_iff {n : Int} : (InRange (-n) ↔ InRange n) ↔ n ≠ 2 ^ 63 ∧ n ≠ -2 ^ 63 := by
  simp only [InRange, leastWord, greatestWord]
  omega

namespace Method

variable {a b : Int64}

theorem overflowed_swap_iff (method : Method) (a b : Int64) :
    (method.subtract b a).overflowed = (method.subtract a b).overflowed ↔
      exactDifference a b ≠ 2 ^ 63 ∧ exactDifference a b ≠ -2 ^ 63 := by
  rw [overflowed_subtract, overflowed_subtract, Bool.not_inj_iff, decide_eq_decide,
    exactDifference_swap, inRange_neg_iff]

theorem overflowed_of_two_pow (method : Method) (extreme : exactDifference a b = 2 ^ 63) :
    (method.subtract a b).overflowed = true ∧ (method.subtract b a).overflowed = false := by
  rw [overflowed_subtract, overflowed_subtract, exactDifference_swap a b, extreme]
  decide

/-- Whatever the method, swapping the operands negates the word, and it changes the flag for those
pairs alone whose exact difference is two to the 63rd power or its opposite.  Of such a pair and the
swapped one, the pair with the positive difference overflows and the other does not. -/
theorem subtract_swap (method : Method) (a b : Int64) :
    (method.subtract b a).wrapped = -(method.subtract a b).wrapped ∧
      ((method.subtract b a).overflowed = (method.subtract a b).overflowed ↔
        exactDifference a b ≠ 2 ^ 63 ∧ exactDifference a b ≠ -2 ^ 63) ∧
      (exactDifference a b = 2 ^ 63 →
        (method.subtract a b).overflowed = true ∧ (method.subtract b a).overflowed = false) ∧
      (exactDifference a b = -2 ^ 63 →
        (method.subtract a b).overflowed = false ∧ (method.subtract b a).overflowed = true) := by
  refine ⟨?_, method.overflowed_swap_iff a b, method.overflowed_of_two_pow, ?_⟩
  · rw [wrapped_subtract, wrapped_subtract, Int64.neg_sub]
  · intro extreme
    have swapped : exactDifference b a = 2 ^ 63 := by
      rw [exactDifference_swap, extreme, Int.neg_neg]
    exact (method.overflowed_of_two_pow swapped).symm

/-- Zero and the least word: both orders wrap to the least word, which is its own opposite, and only
one overflows. -/
theorem subtract_swap_least :
    exactDifference 0 Int64.minValue = 2 ^ 63 ∧
      (signRule.subtract 0 Int64.minValue).overflowed = true ∧
      (signRule.subtract Int64.minValue 0).overflowed = false ∧
      exactDifference Int64.minValue 0 = -2 ^ 63 ∧
      (widened.subtract Int64.minValue 0).overflowed = false ∧
      (widened.subtract 0 Int64.minValue).overflowed = true := by
  have above : exactDifference 0 Int64.minValue = 2 ^ 63 := by decide
  have below : exactDifference Int64.minValue 0 = -2 ^ 63 := by decide
  obtain ⟨_, _, positive, _⟩ := signRule.subtract_swap 0 Int64.minValue
  obtain ⟨_, _, _, negative⟩ := widened.subtract_swap Int64.minValue 0
  exact ⟨above, (positive above).1, (positive above).2, below, (negative below).1,
    (negative below).2⟩

end Method

end SignedDifference
