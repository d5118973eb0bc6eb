import SignedDifference.Literal
import SignedDifference.Session.Entry
import SignedDifference.Text.Column

/-!
# Evaluations and explanations

A subtraction is answered by a line with the wrapped word and whether it overflowed.  Its
explanation puts side by side what the operands denote, the exact difference and whether it is in
the range, what the signs say, and what every method answers.
-/

set_option autoImplicit false

namespace SignedDifference.Session

def outcomeSegments (outcome : Outcome) : List Segment :=
  [.yellow (Numeral.decimal outcome.wrapped.toInt), .plain " (",
   if outcome.overflowed then .red "overflow, wrapped" else .blue "no overflow", .plain ")"]

def evaluationEntry (prompt : Nat) (s : Subtraction) : Entry :=
  .line ([.plain "[", .green (Numeral.decimal prompt), .plain "] "] ++ outcomeSegments s.evaluate)

/-- What the signs of the operands and of the wrapped word say about overflow. -/
inductive SignRelation
  | shared
  | kept
  | lost
deriving DecidableEq, Repr, Inhabited

namespace SignRelation

def of (a b wrapped : Int64) : SignRelation :=
  if (0 ≤ a) = (0 ≤ b) then .shared
  else if (0 ≤ wrapped) = (0 ≤ a) then .kept
  else .lost

def description : SignRelation → String
  | .shared => "operands share a sign, cannot overflow"
  | .kept => "operands differ in sign, result keeps the sign of the minuend"
  | .lost => "operands differ in sign, result flips the sign of the minuend"

end SignRelation

structure Explanation where
  subtraction : Subtraction
  exact : Int
  inRange : Bool
  signs : SignRelation
  methods : List (Method × Outcome)

namespace Explanation

def of (s : Subtraction) : Explanation :=
  let a := s.minuend.value
  let b := s.subtrahend.value
  { subtraction := s
    exact := exactDifference a b
    inRange := decide (InRange (exactDifference a b))
    signs := SignRelation.of a b (Method.native.subtract a b).wrapped
    methods := Method.all.map fun method => (method, method.subtract a b) }

def operandEntry (role : String) (literal : Literal) : Entry :=
  .line
    [.plain ("    " ++ role ++ ": "), .magenta literal.display, .plain " (",
     .blue literal.description, .plain ") = ", .yellow (Numeral.decimal literal.value.toInt),
     .plain (" / 0x" ++
       Text.alignRight 16 '0' (Numeral.hexadecimal literal.value.toUInt64.toNat))]

def methodEntry (method : Method) (outcome : Outcome) : Entry :=
  .line
    [.plain "    ", .green (Text.alignLeft 10 method.name), .plain " ", .yellow outcome.display,
     .plain " (", .blue method.description, .plain ")"]

def entries (explanation : Explanation) : List Entry :=
  [.plain "Explanation:",
   .line [.plain "  Parsed: ", .magenta explanation.subtraction.inline],
   .plain "  Operands:",
   operandEntry "Minuend" explanation.subtraction.minuend,
   operandEntry "Subtrahend" explanation.subtraction.subtrahend,
   .line [.plain "  Exact Difference: ", .yellow (Numeral.decimal explanation.exact)],
   .line
     [.plain "  In Range [", .blue (Numeral.decimal leastWord), .plain ", ",
      .blue (Numeral.decimal greatestWord), .plain "]: ",
      if explanation.inRange then .green "yes" else .red "no"],
   .line [.plain "  Sign Rule: ", .blue explanation.signs.description],
   .plain "  Methods:"] ++
  explanation.methods.map fun answer => methodEntry answer.1 answer.2

end Explanation

end SignedDifference.Session
