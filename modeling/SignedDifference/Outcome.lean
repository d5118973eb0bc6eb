import SignedDifference.Numeral

/-!
# Checked differences

The difference of two signed 64-bit words, as a wrapped word and an overflow flag, found in three
ways that share nothing but the wrapped word's width:

* `Method.native` takes the word difference and the flag of a binary subtractor;
* `Method.widened` takes the exact integer difference, cuts it down and compares it with the range;
* `Method.signRule` takes the word difference and looks at three signs.
-/

set_option autoImplicit false

namespace SignedDifference

/-- A wrapped difference, and whether the exact one lies outside the signed 64-bit range. -/
structure Outcome where
  wrapped : Int64
  overflowed : Bool
deriving DecidableEq, Repr, Inhabited

namespace Outcome

def display (outcome : Outcome) : String :=
  if outcome.overflowed then Numeral.decimal outcome.wrapped.toInt ++ " (overflow)"
  else Numeral.decimal outcome.wrapped.toInt

end Outcome

def leastWord : Int := -0x8000000000000000

def greatestWord : Int := 0x8000000000000000 - 1

def InRange (n : Int) : Prop := leastWord ≤ n ∧ n ≤ greatestWord

instance (n : Int) : Decidable (InRange n) :=
  inferInstanceAs (Decidable (leastWord ≤ n ∧ n ≤ greatestWord))

def exactDifference (a b : Int64) : Int := a.toInt - b.toInt

inductive Method
  | native
  | widened
  | signRule
deriving DecidableEq, Repr, Inhabited

namespace Method

def all : List Method := [.native, .widened, .signRule]

def name : Method → String
  | .native => "native"
  | .widened => "widened"
  | .signRule => "sign-rule"

def description : Method → String
  | .native => "i64::overflowing_sub"
  | .widened => "exact i128 difference, range checked"
  | .signRule => "operand signs against the wrapped result"

/-- The overflow flag of a binary subtractor: the borrow into the sign bit differs from the borrow
out of it. -/
def borrowFlag (a b : Int64) : Bool :=
  let borrowIn := a.toUInt64 % 0x8000000000000000 < b.toUInt64 % 0x8000000000000000
  let borrowOut := a.toUInt64 < b.toUInt64
  decide borrowIn != decide borrowOut

/-- Only operands of different sign can overflow, and then the wrapped word loses the sign of the
minuend. -/
def signFlag (a b wrapped : Int64) : Bool :=
  (decide (0 ≤ a) && decide (b < 0) && decide (wrapped < 0)) ||
    (decide (a < 0) && decide (0 ≤ b) && decide (0 ≤ wrapped))

def subtract (method : Method) (a b : Int64) : Outcome :=
  match method with
  | .native => ⟨a - b, borrowFlag a b⟩
  | .widened => ⟨Int64.ofInt (exactDifference a b), !decide (InRange (exactDifference a b))⟩
  | .signRule => ⟨a - b, signFlag a b (a - b)⟩

end Method

end SignedDifference
