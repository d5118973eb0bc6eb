import Mathlib.Data.Set.Basic
import SignedDifference.Proofs.Generator.Stream

/-!
# Drawn operands

An offset is at most `reach`: a second word may add one to the high half of the first, but only to
one that is below `reach` (`highHalf_of_not_hasRoom`).  So the sums of the anchors and the offset
are exact.  Every offset can be drawn with every choice of an anchor and every further word
(`mem_operands_iff`), which makes the operands of a choice all words, or all words of a range
(`operands_of_choice`).
-/

set_option autoImplicit false

namespace SignedDifference.Generator

open WordSource (take_eq)

variable {source : WordSource} {offset chosen : Nat} {operand : Int64}

/-- The number from zero to three that the low half of a word chooses. -/
def choice (word : UInt64) : Nat :=
  word.toNat % 0x100000000 * 4 / 0x100000000

/-- The operands of all sources whose word for the anchor chooses the number. -/
def operands (chosen : Nat) : Set Int64 :=
  {operand | ∃ source : WordSource,
    choice ((drawOffset source).2.ahead 0) = chosen ∧ (drawOperand source).1 = operand}

def wordsBetween (low high : Int) : Set Int64 :=
  {word | low ≤ word.toInt ∧ word.toInt ≤ high}

/-- The word sums of the anchors and the offset are the sums of the integers. -/
structure ExactSums (offset : Nat) : Prop where
  least : (Int64.minValue + Int64.ofNat offset).toInt = leastWord + offset
  greatest : (Int64.maxValue - Int64.ofNat offset).toInt = greatestWord - offset
  above : (Int64.ofNat offset).toInt = offset
  below : (-Int64.ofNat offset).toInt = -offset

/-! ## Offsets -/

theorem bmod_of_inRange {n : Int} (inRange : InRange n) : n.bmod (2 ^ 64) = n := by
  obtain ⟨low, high⟩ := inRange
  simp only [leastWord, greatestWord] at low high
  apply Int.bmod_eq_of_le <;> omega

theorem OffsetFits.exactSums (fits : OffsetFits offset) : ExactSums offset := by
  have above : (Int64.ofNat offset).toInt = offset := by
    have high := fits.above.2
    simp only [greatestWord] at high
    exact Int64.toInt_ofNat_of_lt (by omega)
  refine ⟨?_, ?_, above, ?_⟩
  · rw [Int64.toInt_add, above]
    exact bmod_of_inRange fits.least
  · rw [Int64.toInt_sub, above]
    exact bmod_of_inRange fits.greatest
  · rw [Int64.toInt_neg, above]
    exact bmod_of_inRange fits.below

theorem highHalf_of_not_hasRoom {word : UInt64} (tight : ¬ HasRoom word) :
    highHalf word < reach := by
  have bound := word.toNat_lt
  simp only [HasRoom, lowHalf, highHalf, reach] at tight ⊢
  omega

def offsetWord (offset : Nat) : UInt64 :=
  UInt64.ofNat (offset * 0x3333333333333334)

theorem product_offsetWord (near : offset ≤ reach) :
    (offsetWord offset).toNat * (reach + 1) = 0x10000000000000000 * offset + 4 * offset := by
  simp only [reach] at near ⊢
  have fits : offset * 0x3333333333333334 < UInt64.size := by
    rw [UInt64.size]
    omega
  rw [offsetWord, UInt64.toNat_ofNat_of_lt' fits]
  omega

theorem drawOffset_of_offsetWord (near : offset ≤ reach)
    (first : source.ahead 0 = offsetWord offset) : drawOffset source = (offset, source.skip 1) := by
  have product := product_offsetWord near
  simp only [reach] at near
  have low : lowHalf (offsetWord offset) = 4 * offset := by
    rw [lowHalf, product, Nat.mul_add_mod]
    exact Nat.mod_eq_of_lt (by omega)
  have high : highHalf (offsetWord offset) = offset := by
    rw [highHalf, product, Nat.mul_add_div (by decide), Nat.div_eq_of_lt (by omega), Nat.add_zero]
  have room : HasRoom (offsetWord offset) := by
    rw [HasRoom, low]
    simp only [reach]
    omega
  rw [← first] at room high
  rw [drawOffset_of_hasRoom room, high]

/-! ## Choices -/

theorem choice_lt (word : UInt64) : choice word < 4 := by
  rw [choice]
  omega

def Anchor.ofChoice : Nat → Anchor
  | 0 => .anywhere
  | 1 => .least
  | 2 => .greatest
  | _ => .zero

theorem Anchor.ofWord_eq (word : UInt64) : Anchor.ofWord word = Anchor.ofChoice (choice word) := rfl

def choiceWord (chosen : Nat) : UInt64 :=
  UInt64.ofNat (chosen * 0x40000000)

theorem choice_choiceWord (known : chosen < 4) : choice (choiceWord chosen) = chosen := by
  have value : (choiceWord chosen).toNat = chosen * 0x40000000 :=
    UInt64.toNat_ofNat_of_lt' (by simp only [UInt64.size]; omega)
  rw [choice, value]
  omega

theorem drawOperand_eq (source : WordSource) :
    drawOperand source =
      operandAt (Anchor.ofChoice (choice ((drawOffset source).2.ahead 0))) (drawOffset source).1
        ((drawOffset source).2.skip 1) := by
  rw [← Anchor.ofWord_eq]
  rfl

theorem operandAt_of_ahead {anchor : Anchor} {other : WordSource}
    (same : other.ahead 0 = source.ahead 0) :
    (operandAt anchor offset other).1 = (operandAt anchor offset source).1 := by
  cases anchor with
  | anywhere => exact congrArg UInt64.toInt64 same
  | least => rfl
  | greatest => rfl
  | zero =>
      simp only [operandAt, take_eq, same]
      rfl

theorem mem_operands_iff (known : chosen < 4) :
    operand ∈ operands chosen ↔
      ∃ offset ≤ reach, ∃ further : WordSource,
        (operandAt (Anchor.ofChoice chosen) offset further).1 = operand := by
  constructor
  · intro drawn
    obtain ⟨source, chooses, drawn⟩ := drawn
    rw [drawOperand_eq, chooses] at drawn
    exact ⟨_, drawOffset_le source, _, drawn⟩
  · intro drawn
    obtain ⟨offset, near, further, drawn⟩ := drawn
    let source := WordSource.cyclic [offsetWord offset, choiceWord chosen, further.ahead 0]
    have first : drawOffset source = (offset, source.skip 1) := drawOffset_of_offsetWord near rfl
    have chooses : choice ((source.skip 1).ahead 0) = chosen := choice_choiceWord known
    refine ⟨source, ?_, ?_⟩
    · rw [first]
      exact chooses
    · have same : ((source.skip 1).skip 1).ahead 0 = further.ahead 0 := rfl
      rw [drawOperand_eq, first]
      simp only [chooses]
      rw [operandAt_of_ahead same, drawn]

/-! ## Operands of a choice -/

theorem operands_anywhere : operands 0 = Set.univ := by
  apply Set.eq_univ_of_forall
  intro operand
  rw [mem_operands_iff (by decide)]
  exact ⟨0, Nat.zero_le reach, ⟨fun _ => operand.toUInt64, 0⟩, operand.toInt64_toUInt64⟩

theorem mem_operands_of_sum {sum : Nat → Int} (known : chosen < 4)
    (exact_sum : ∀ offset ≤ reach, ∀ further : WordSource,
      (operandAt (Anchor.ofChoice chosen) offset further).1.toInt = sum offset) :
    operand ∈ operands chosen ↔ ∃ offset ≤ reach, operand.toInt = sum offset := by
  rw [mem_operands_iff known]
  constructor
  · intro drawn
    obtain ⟨offset, near, further, rfl⟩ := drawn
    exact ⟨offset, near, exact_sum offset near further⟩
  · intro drawn
    obtain ⟨offset, near, same⟩ := drawn
    refine ⟨offset, near, .cyclic [], Int64.toInt_inj.mp ?_⟩
    exact (exact_sum offset near _).trans same.symm

theorem operands_least : operands 1 = wordsBetween leastWord (leastWord + 4) := by
  ext operand
  have sums : operand ∈ operands 1 ↔ ∃ offset ≤ reach, operand.toInt = leastWord + offset :=
    mem_operands_of_sum (by decide) fun offset near _ => (offsetFits_of_le near).exactSums.least
  rw [sums, reach]
  constructor
  · intro drawn
    obtain ⟨offset, near, sum⟩ := drawn
    exact ⟨by omega, by omega⟩
  · intro within
    obtain ⟨low, high⟩ := within
    exact ⟨(operand.toInt - leastWord).toNat, by omega, by omega⟩

theorem operands_greatest : operands 2 = wordsBetween (greatestWord - 4) greatestWord := by
  ext operand
  have sums : operand ∈ operands 2 ↔ ∃ offset ≤ reach, operand.toInt = greatestWord - offset :=
    mem_operands_of_sum (by decide) fun offset near _ => (offsetFits_of_le near).exactSums.greatest
  rw [sums, reach]
  constructor
  · intro drawn
    obtain ⟨offset, near, difference⟩ := drawn
    exact ⟨by omega, by omega⟩
  · intro within
    obtain ⟨low, high⟩ := within
    exact ⟨(greatestWord - operand.toInt).toNat, by omega, by omega⟩

theorem operandAt_zero (offset : Nat) (further : WordSource) :
    (operandAt .zero offset further).1 =
      if (further.ahead 0).toNat < 0x8000000000000000 then Int64.ofNat offset
      else -Int64.ofNat offset := rfl

theorem mem_operands_zero :
    operand ∈ operands 3 ↔
      ∃ offset ≤ reach, operand.toInt = offset ∨ operand.toInt = -(offset : Int) := by
  rw [mem_operands_iff (by decide), show Anchor.ofChoice 3 = .zero from rfl]
  constructor
  · intro drawn
    obtain ⟨offset, near, further, rfl⟩ := drawn
    have sums := (offsetFits_of_le near).exactSums
    refine ⟨offset, near, ?_⟩
    rw [operandAt_zero]
    split
    · exact Or.inl sums.above
    · exact Or.inr sums.below
  · intro drawn
    obtain ⟨offset, near, above | below⟩ := drawn
    · refine ⟨offset, near, .cyclic [0], Int64.toInt_inj.mp ?_⟩
      exact (offsetFits_of_le near).exactSums.above.trans above.symm
    · refine ⟨offset, near, .cyclic [0x8000000000000000], Int64.toInt_inj.mp ?_⟩
      exact (offsetFits_of_le near).exactSums.below.trans below.symm

theorem operands_zero : operands 3 = wordsBetween (-4) 4 := by
  ext operand
  rw [mem_operands_zero, reach]
  constructor
  · intro drawn
    obtain ⟨offset, near, above | below⟩ := drawn
    · exact ⟨by omega, by omega⟩
    · exact ⟨by omega, by omega⟩
  · intro within
    obtain ⟨low, high⟩ := within
    exact ⟨operand.toInt.natAbs, by omega, by omega⟩

/-- Whatever the words, the offset is at most four, also if a second word adds one to a high half,
and its sums with the anchors are exact.  The sources that choose an anchor draw every word at
first, and every word within four of the least, of the greatest, or of zero otherwise. -/
theorem operands_of_choice :
    (∀ source : WordSource,
      (drawOffset source).1 ≤ 4 ∧ ExactSums (drawOffset source).1 ∧
        (drawOffset source = (highHalf (source.ahead 0), source.skip 1) ∨
          highHalf (source.ahead 0) ≤ 3 ∧ ∃ added ≤ 1,
            drawOffset source = (highHalf (source.ahead 0) + added, source.skip 2)) ∧
        choice ((drawOffset source).2.ahead 0) < 4) ∧
      operands 0 = Set.univ ∧
      operands 1 = wordsBetween leastWord (leastWord + 4) ∧
      operands 2 = wordsBetween (greatestWord - 4) greatestWord ∧
      operands 3 = wordsBetween (-4) 4 := by
  refine ⟨?_, operands_anywhere, operands_least, operands_greatest, operands_zero⟩
  intro source
  refine ⟨drawOffset_le source, (offsetFits_drawOffset source).exactSums, ?_, choice_lt _⟩
  by_cases room : HasRoom (source.ahead 0)
  · exact Or.inl (drawOffset_of_hasRoom room)
  · have below := highHalf_of_not_hasRoom room
    exact Or.inr ⟨Nat.le_of_lt_succ below, _, carry_le _ _, drawOffset_of_not_hasRoom room⟩

/-- A second word brings the greatest offset. -/
example : (drawOffset (.cyclic [0xCCCCCCCCCCCCCCCC, 0xFFFFFFFFFFFFFFFF])).1 = 4 ∧
    (drawOffset (.cyclic [0xCCCCCCCCCCCCCCCC, 0xFFFFFFFFFFFFFFFF])).2.used = 2 := by
  decide

end SignedDifference.Generator
