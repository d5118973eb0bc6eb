import SignedDifference.Suite
import SignedDifference.Text.Column

/-!
# The boundary table

The boundary suite as a table of operands, wrapped words, flags and expectations, followed by a run
of the oracle with each method and a run over the suite with one expectation flipped.
-/

set_option autoImplicit false

namespace SignedDifference.BoundaryTable

def word (n : Int64) : String :=
  Text.alignRight 20 ' ' (Numeral.decimal n.toInt)

def truth (b : Bool) : String :=
  if b then "true" else "false"

def row (case : Case) : String :=
  let outcome := Method.native.subtract case.a case.b
  word case.a ++ " - " ++ word case.b ++ " = " ++ word outcome.wrapped ++ "  overflow: " ++
    Text.alignLeft 5 (truth outcome.overflowed) ++ "  expected: " ++ truth case.expectOverflow

def stateName : Oracle.State → String
  | .running => "Running"
  | .done status => "Done(" ++ status.name ++ ")"

def finalState (method : Method) (cases : List Case) : Oracle.State :=
  ((Oracle.start cases ()).drain (Subtractor.ofMethod method)).2.state

def methodLine (method : Method) : String :=
  method.name ++ " (" ++ method.description ++ "): " ++ stateName (finalState method Case.boundary)

/-- The end of a run, with the last verdict; nothing is said of a run without verdicts. -/
def brokenLines (cases : List Case) : List String :=
  let (verdicts, final) := (Oracle.start cases ()).drain (Subtractor.ofMethod .native)
  match final.state, verdicts.getLast? with
  | .done status, some verdict =>
      ["",
       "broken table: " ++ status.name ++ " at case #" ++
         Numeral.decimal (verdict.index + 1 : Nat) ++ " (" ++ verdict.case.display ++ ")"]
  | _, _ => []

def lines : List String :=
  ["=== Boundary table ===", ""] ++ Case.boundary.map row ++ ["", "=== Oracle runs ===", ""] ++
    Method.all.map methodLine ++ brokenLines (Case.flipAt Case.boundary [9])

end SignedDifference.BoundaryTable
