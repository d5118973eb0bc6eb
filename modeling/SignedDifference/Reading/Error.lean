/-!
# Read errors

What can be wrong with a text: an operand whose value does not fit, or a place where the text stops
being the beginning of anything that may stand there.  A grammar error lists the ways in which the
text could have gone on.  Positions are byte offsets in the UTF-8 encoding.
-/

set_option autoImplicit false

namespace SignedDifference

structure Span where
  start : Nat
  stop : Nat
deriving DecidableEq, Repr, Inhabited

def Span.ofNext (position : Nat) : List Char → Span
  | [] => ⟨position, position⟩
  | c :: _ => ⟨position, position + c.utf8Size⟩

inductive RangeFault
  | integerTooLarge
  | integerTooSmall
  | hexTooLarge
deriving DecidableEq, Repr, Inhabited

/-- A way in which a text could go on. -/
inductive Continuation
  | operand
  | hexPattern
  | decimalInteger
  | digit
  | nonzeroDigit
  | symbol (c : Char)
  | expectation
  | endOfInput
deriving DecidableEq, Repr, Inhabited

inductive ReadError
  | outOfRange (span : Span) (fault : RangeFault)
  /-- What stands at `span`, or the end of the text, cannot follow what stands before it. -/
  | unexpected (span : Span) (found : Option Char) (expected : List Continuation)
deriving DecidableEq, Repr, Inhabited

namespace RangeFault

def message : RangeFault → String
  | .integerTooLarge => "illegal integer literal: number too large to fit in target type"
  | .integerTooSmall => "illegal integer literal: number too small to fit in target type"
  | .hexTooLarge => "illegal hex literal: number too large to fit in target type"

end RangeFault

def quoteChar (c : Char) : String :=
  "'" ++ c.toString ++ "'"

namespace Continuation

def describe : Continuation → String
  | .operand => "operand"
  | .hexPattern => "hex bit pattern"
  | .decimalInteger => "decimal integer"
  | .digit => "digit"
  | .nonzeroDigit => "non-zero digit"
  | .symbol c => quoteChar c
  | .expectation => "expectation"
  | .endOfInput => "end of input"

/-- The alternatives separated by commas, the last of several after an `or`. -/
def describeAll : List Continuation → String
  | [] => ""
  | [only] => only.describe
  | [first, last] => first.describe ++ ", or " ++ last.describe
  | first :: rest => first.describe ++ ", " ++ describeAll rest

end Continuation

namespace ReadError

def span : ReadError → Span
  | .outOfRange span _ => span
  | .unexpected span _ _ => span

def message : ReadError → String
  | .outOfRange _ fault => fault.message
  | .unexpected _ found expected =>
      "found " ++ (match found with | some c => quoteChar c | none => "end of input") ++
        " expected " ++ Continuation.describeAll expected

end ReadError

end SignedDifference
