import SignedDifference.Generator
import SignedDifference.Proofs.Oracle.Expectations

/-!
# Drawn cases

Whatever the words, an offset is at most `reach` (`drawOffset_le`), so that no sum of an anchor and
an offset leaves the range.  As many cases are drawn as were asked for, and each expects what the
exact difference of its operands says.
-/

set_option autoImplicit false

namespace SignedDifference.Generator

/-- Every sum of an anchor and the offset is in the range. -/
structure OffsetFits (offset : Nat) : Prop where
  least : InRange (leastWord + offset)
  greatest : InRange (greatestWord - offset)
  below : InRange (-offset)
  above : InRange offset

theorem drawOffset_le (source : WordSource) : (drawOffset source).1 ≤ reach := by
  have first := source.take.1.toNat_lt
  have second := source.take.2.take.1.toNat_lt
  have four : reach = 4 := rfl
  rw [drawOffset, four]
  dsimp only
  split
  · omega
  · -- The greatest high word comes with a low word that leaves room for every carry.
    split <;> omega

theorem offsetFits_of_le {offset : Nat} (near : offset ≤ reach) : OffsetFits offset := by
  constructor <;> simp only [reach, InRange, leastWord, greatestWord] at near ⊢ <;> omega

theorem offsetFits_drawOffset (source : WordSource) : OffsetFits (drawOffset source).1 :=
  offsetFits_of_le (drawOffset_le source)

theorem isRight_drawCase (source : WordSource) : (drawCase source).1.IsRight :=
  (Case.isRight_iff .widened).mpr rfl

theorem length_drawCases (count : Nat) :
    ∀ source : WordSource, (drawCases count source).1.length = count := by
  induction count with
  | zero => intro source; rfl
  | succ count ih =>
      intro source
      rw [drawCases, List.length_cons, ih]

theorem isRight_of_mem_drawCases (count : Nat) :
    ∀ source : WordSource, ∀ case ∈ (drawCases count source).1, case.IsRight := by
  induction count with
  | zero => intro source case member; simp [drawCases] at member
  | succ count ih =>
      intro source case member
      rw [drawCases] at member
      rcases List.mem_cons.mp member with rfl | later
      · exact isRight_drawCase source
      · exact ih _ case later

theorem checkMethod_drawCases (method : Method) (count : Nat) (source : WordSource) :
    Suite.checkMethod method (drawCases count source).1 = .ok count := by
  have checked := Suite.checkMethod_of_right method (isRight_of_mem_drawCases count source)
  rwa [length_drawCases] at checked

end SignedDifference.Generator
