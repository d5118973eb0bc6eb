import SignedDifference.Outcome

/-!
# Operand literals

An operand is written as a signed decimal, as a 64-bit pattern in hexadecimal, or as the name of an
end of the range.  `Literal.value` is the word that it denotes.
-/

set_option autoImplicit false

namespace SignedDifference

inductive Literal
  | int (n : Int64)
  | hex (bits : UInt64)
  | min
  | max
deriving DecidableEq, Repr, Inhabited

namespace Literal

/-- The denoted word; a bit pattern is read in two's complement. -/
def value : Literal → Int64
  | .int n => n
  | .hex bits => bits.toInt64
  | .min => Int64.minValue
  | .max => Int64.maxValue

def description : Literal → String
  | .int _ => "Decimal"
  | .hex _ => "Bit Pattern"
  | .min => "Minimum"
  | .max => "Maximum"

def display : Literal → String
  | .int n => Numeral.decimal n.toInt
  | .hex bits => "0x" ++ Numeral.hexadecimal bits.toNat
  | .min => "MIN"
  | .max => "MAX"

end Literal

structure Subtraction where
  minuend : Literal
  subtrahend : Literal
deriving DecidableEq, Repr, Inhabited

namespace Subtraction

def evaluate (s : Subtraction) : Outcome :=
  Method.native.subtract s.minuend.value s.subtrahend.value

def display (s : Subtraction) : String :=
  s.minuend.display ++ " - " ++ s.subtrahend.display

def inline (s : Subtraction) : String :=
  "(" ++ Numeral.decimal s.minuend.value.toInt ++ " - " ++
    Numeral.decimal s.subtrahend.value.toInt ++ ")"

end Subtraction

end SignedDifference
