import SignedDifference.Literal

/-!
# Cases

A case is a pair of operands with the expectation whether their difference overflows.
`Case.boundary` is the fixed suite around zero and both ends of the range.  A case line is a case
whose operands are still as they were written.
-/

set_option autoImplicit false

namespace SignedDifference

structure Case where
  a : Int64
  b : Int64
  expectOverflow : Bool
deriving DecidableEq, Repr, Inhabited

namespace Case

def flipped (case : Case) : Case :=
  { case with expectOverflow := !case.expectOverflow }

def expectation (overflow : Bool) : String :=
  if overflow then "overflow" else "ok"

def display (case : Case) : String :=
  Numeral.decimal case.a.toInt ++ " - " ++ Numeral.decimal case.b.toInt ++ " => " ++
    expectation case.expectOverflow

def boundary : List Case :=
  [⟨0, 0, false⟩,
   ⟨0, Int64.maxValue, false⟩,
   ⟨0, Int64.minValue, true⟩,
   ⟨0, Int64.minValue + 1, false⟩,
   ⟨1, Int64.maxValue, false⟩,
   ⟨Int64.maxValue, 0, false⟩,
   ⟨Int64.maxValue, 1, false⟩,
   ⟨Int64.maxValue, Int64.maxValue, false⟩,
   ⟨Int64.maxValue, Int64.minValue, true⟩,
   ⟨Int64.maxValue, -1, true⟩,
   ⟨Int64.minValue, Int64.maxValue, true⟩,
   ⟨Int64.minValue, Int64.minValue, false⟩,
   ⟨Int64.minValue + 1, 1, false⟩,
   ⟨Int64.minValue + 1, 2, true⟩]

/-- The cases with the expectations at the given positions flipped, one position after another; a
position past the end changes nothing. -/
def flipAt (cases : List Case) (positions : List Nat) : List Case :=
  positions.foldl (fun changed position => changed.modify position flipped) cases

end Case

structure CaseLine where
  expression : Subtraction
  expectOverflow : Bool
deriving DecidableEq, Repr, Inhabited

namespace CaseLine

def toCase (line : CaseLine) : Case :=
  ⟨line.expression.minuend.value, line.expression.subtrahend.value, line.expectOverflow⟩

end CaseLine

end SignedDifference
