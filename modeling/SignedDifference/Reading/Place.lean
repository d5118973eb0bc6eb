import SignedDifference.Reading.Grammar
import SignedDifference.Text.ByteCount

/-!
# Places

What the beginning of an expression or a case line ends with, and where in it the operands stand.
Blanks may follow every token; they belong to what ends with the token.
-/

set_option autoImplicit false

namespace SignedDifference

open Text (byteCount)

/-- The operand is what the characters after `front` spell, and its span is theirs. -/
def Operand.Covers (operand : Operand) (front token : List Char) : Prop :=
  operand.written.SpelledBy token ∧ operand.span = ⟨byteCount front, byteCount (front ++ token)⟩

/-- The text ends with the operand, which stands after something that `opens` an operand. -/
def EndsOperand (opens : List Char → Prop) (operand : Operand) (text : List Char) : Prop :=
  ∃ front token gap,
    opens front ∧ operand.Covers front token ∧ Blanks gap ∧ text = front ++ token ++ gap

def EndsMinuend (minuend : Operand) : List Char → Prop :=
  EndsOperand Blanks minuend

/-- The text ends with the minus sign between the operands. -/
def EndsMinus (minuend : Operand) (text : List Char) : Prop :=
  ∃ left gap, EndsMinuend minuend left ∧ Blanks gap ∧ text = left ++ '-' :: gap

def EndsSubtrahend (minuend subtrahend : Operand) : List Char → Prop :=
  EndsOperand (EndsMinus minuend) subtrahend

def EndsArrow (minuend subtrahend : Operand) (text : List Char) : Prop :=
  ∃ expression gap,
    EndsSubtrahend minuend subtrahend expression ∧ Blanks gap ∧
      text = expression ++ '=' :: '>' :: gap

def EndsExpectation (minuend subtrahend : Operand) (overflow : Bool) (text : List Char) : Prop :=
  ∃ line gap,
    EndsArrow minuend subtrahend line ∧ Blanks gap ∧
      text = line ++ (Case.expectation overflow).toList ++ gap

/-- The text ends where an operand may start: before the minuend, or after the minus sign. -/
def OpensOperand (text : List Char) : Prop :=
  Blanks text ∨ ∃ minuend, EndsMinus minuend text

end SignedDifference
