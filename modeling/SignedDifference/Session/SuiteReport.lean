import SignedDifference.Generator
import SignedDifference.Session.Explanation
import SignedDifference.Suite

/-!
# Reports on suites

A suite run verdict by verdict, the list of the boundary suite, and generated cases checked with
every method.
-/

set_option autoImplicit false

namespace SignedDifference.Session

def caseNumber (index : Nat) : String :=
  "#" ++ Text.alignLeft 2 (Numeral.decimal (index + 1 : Nat))

def verdictEntry (verdict : Verdict) : Entry :=
  .line
    ([.plain "  [", if verdict.passed then .green "pass" else .red "FAIL",
      .plain ("] " ++ caseNumber verdict.index ++ " "), .magenta verdict.case.display,
      .plain "  got "] ++ outcomeSegments verdict.observed)

def closingEntry (count : Nat) : Oracle.State → Entry
  | .done status =>
      if status.isSuccess then
        .line
          [.cyan "Done:", .plain " ", .yellow (Numeral.decimal count),
           .plain " cases passed (exit code ", .blue (Numeral.decimal status.code.toNat),
           .plain ")"]
      else
        .line
          [.cyan "Done:", .plain " ", .red "mismatch, remaining cases skipped",
           .plain " (exit code ", .blue (Numeral.decimal status.code.toNat), .plain ")"]
  | .running => .failure [.plain "Oracle stopped while still running"]

def runReport (cases : List Case) (method : Method) : List Entry :=
  let (verdicts, final) := (Oracle.start cases ()).drain (Subtractor.ofMethod method)
  verdicts.map verdictEntry ++ [closingEntry cases.length final.state]

def caseEntry (index : Nat) (case : Case) : Entry :=
  .line [.plain ("  " ++ caseNumber index ++ " "), .magenta case.display]

def caseList : List Entry :=
  .line [.cyan "Boundary suite", .plain ":"] :: Case.boundary.mapIdx caseEntry

def methodReport (cases : List Case) (method : Method) : Entry :=
  .line
    ([.plain "  ", .green method.name, .plain ": "] ++
      match Suite.checkMethod method cases with
      | .ok count => [.yellow (Numeral.decimal count), .plain " cases passed"]
      | .error error => [.red error.message])

def generatedReport (cases : List Case) : List Entry :=
  .generated cases.length (cases.filter Case.expectOverflow).length ::
    Method.all.map (methodReport cases)

end SignedDifference.Session
