import SignedDifference.Reading.Place

/-!
# What an expectation stands for

The characters that the entries of a grammar error name, and the texts that end inside a token,
where no blank may stand.  A digit is a hexadecimal one only in a bit pattern.
-/

set_option autoImplicit false

namespace SignedDifference

def IsDigit (c : Char) : Prop :=
  '0' ≤ c ∧ c ≤ '9'

def IsHexDigit (c : Char) : Prop :=
  IsDigit c ∨ ('A' ≤ c ∧ c ≤ 'F') ∨ ('a' ≤ c ∧ c ≤ 'f')

/-- The text ends with a bit pattern of which at least the mark has been written. -/
def InPattern (text : List Char) : Prop :=
  ∃ front mark digits, OpensOperand front ∧ (mark = 'x' ∨ mark = 'X') ∧
    (∀ digit ∈ digits, IsHexDigit digit) ∧ text = front ++ '0' :: mark :: digits

/-- The character is one of those that the entry names, in a bit pattern or elsewhere. -/
def Continuation.Names (inPattern : Prop) (c : Char) : Continuation → Prop
  | .operand => c = '-' ∨ IsDigit c ∨ c = 'M'
  | .hexPattern => c = '0'
  | .decimalInteger => c = '-' ∨ IsDigit c
  | .digit => (inPattern ∧ IsHexDigit c) ∨ (¬ inPattern ∧ IsDigit c)
  | .nonzeroDigit => '1' ≤ c ∧ c ≤ '9'
  | .symbol named => c = named
  | .expectation => c = 'o'
  | .endOfInput => False

/-- The text ends with the beginning of a token that cannot end there. -/
inductive InsideToken : List Char → Prop
  | literal {front token : List Char} : OpensOperand front →
      token ∈ [['-'], ['0', 'x'], ['0', 'X'], ['M'], ['M', 'I'], ['M', 'A']] →
        InsideToken (front ++ token)
  | arrow {minuend subtrahend : Operand} {expression : List Char} :
      EndsSubtrahend minuend subtrahend expression → InsideToken (expression ++ ['='])
  | expectation {minuend subtrahend : Operand} {overflow : Bool} {line letters rest : List Char} :
      EndsArrow minuend subtrahend line → letters ≠ [] → rest ≠ [] →
        letters ++ rest = (Case.expectation overflow).toList → InsideToken (line ++ letters)

end SignedDifference
