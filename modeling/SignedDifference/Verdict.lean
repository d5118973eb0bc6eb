import SignedDifference.Case

/-!
# Verdicts

What a run over a suite reports: a verdict for each case evaluated, an error that carries the first
mismatch, and an exit status.  Only the overflow flag decides; the wrapped word is carried along.
-/

set_option autoImplicit false

namespace SignedDifference

/-- The outcome observed for the case at a position of the suite, counted from zero. -/
structure Verdict where
  index : Nat
  case : Case
  observed : Outcome
deriving DecidableEq, Repr, Inhabited

namespace Verdict

def passed (verdict : Verdict) : Bool :=
  verdict.observed.overflowed == verdict.case.expectOverflow

end Verdict

inductive SuiteError
  | overflowMismatch (verdict : Verdict)
deriving DecidableEq, Repr, Inhabited

namespace SuiteError

def expectation (overflow : Bool) : String :=
  if overflow then "overflow" else "no overflow"

/-- Cases are numbered from one. -/
def message : SuiteError → String
  | .overflowMismatch verdict =>
      "Case #" ++ Numeral.decimal (verdict.index + 1 : Nat) ++ " (" ++
        Numeral.decimal verdict.case.a.toInt ++ " - " ++
        Numeral.decimal verdict.case.b.toInt ++ "): expected " ++
        expectation verdict.case.expectOverflow ++ ", but got " ++ verdict.observed.display

end SuiteError

inductive ExitStatus
  | success
  | failure
deriving DecidableEq, Repr, Inhabited

namespace ExitStatus

def name : ExitStatus → String
  | .success => "Success"
  | .failure => "Failure"

def code : ExitStatus → UInt8
  | .success => 0
  | .failure => 255

def isSuccess : ExitStatus → Bool
  | .success => true
  | .failure => false

def ofResult {α : Type} : Except SuiteError α → ExitStatus
  | .ok _ => .success
  | .error _ => .failure

end ExitStatus

end SignedDifference
