import SignedDifference.Literal
import SignedDifference.Reading.Error

/-!
# Written literals

What an operand says before it is asked whether it fits: a decimal or a bit pattern of any size, or
the name of an end of the range.  `SpelledBy` says which texts are its spellings, and `denote` gives
the literal or the reason why there is none.
-/

set_option autoImplicit false

namespace SignedDifference

inductive WrittenLiteral
  | decimal (negative : Bool) (magnitude : Nat)
  | pattern (bits : Nat)
  | min
  | max
deriving DecidableEq, Repr, Inhabited

namespace WrittenLiteral

def signed (negative : Bool) (magnitude : Nat) : Int :=
  if negative then -magnitude else magnitude

def denoteDecimal (n : Int) : Except RangeFault Literal :=
  if n < leastWord then .error .integerTooSmall
  else if greatestWord < n then .error .integerTooLarge
  else .ok (.int (Int64.ofInt n))

def denote : WrittenLiteral → Except RangeFault Literal
  | .decimal negative magnitude => denoteDecimal (signed negative magnitude)
  | .pattern bits =>
      if bits < 0x10000000000000000 then .ok (.hex (UInt64.ofNat bits)) else .error .hexTooLarge
  | .min => .ok .min
  | .max => .ok .max

/-- A decimal without a sign: a zero, or digits of which the first is not zero. -/
def IsDecimal (digits : List Char) (n : Nat) : Prop :=
  digits ≠ [] ∧ (digits.head? = some '0' → digits = ['0']) ∧ Numeral.value? 10 digits = some n

/-- Hexadecimal digits, at least one, with any number of leading zeros. -/
def IsPattern (digits : List Char) (n : Nat) : Prop :=
  digits ≠ [] ∧ Numeral.value? 16 digits = some n

def SpelledBy : WrittenLiteral → List Char → Prop
  | .decimal false magnitude, text => IsDecimal text magnitude
  | .decimal true magnitude, text =>
      ∃ digits, text = '-' :: digits ∧ IsDecimal digits magnitude
  | .pattern bits, text =>
      ∃ mark digits, (mark = 'x' ∨ mark = 'X') ∧ text = '0' :: mark :: digits ∧
        IsPattern digits bits
  | .min, text => text = ['M', 'I', 'N']
  | .max, text => text = ['M', 'A', 'X']

end WrittenLiteral

/-- The texts that denote the literal.  A word has many spellings: a zero may carry a sign, and a
bit pattern any number of leading zeros. -/
def Literal.SpelledBy : Literal → List Char → Prop
  | .int n, text =>
      ∃ negative magnitude, WrittenLiteral.signed negative magnitude = n.toInt ∧
        (WrittenLiteral.decimal negative magnitude).SpelledBy text
  | .hex bits, text => (WrittenLiteral.pattern bits.toNat).SpelledBy text
  | .min, text => WrittenLiteral.min.SpelledBy text
  | .max, text => WrittenLiteral.max.SpelledBy text

structure Operand where
  span : Span
  written : WrittenLiteral
deriving DecidableEq, Repr, Inhabited

namespace Operand

def errors (operand : Operand) : List ReadError :=
  match operand.written.denote with
  | .ok _ => []
  | .error fault => [.outOfRange operand.span fault]

/-- The subtraction of two operands, or the errors of those that do not fit. -/
def pair (minuend subtrahend : Operand) : Except (List ReadError) Subtraction :=
  match minuend.written.denote, subtrahend.written.denote with
  | .ok a, .ok b => .ok ⟨a, b⟩
  | _, _ => .error (minuend.errors ++ subtrahend.errors)

end Operand

end SignedDifference
