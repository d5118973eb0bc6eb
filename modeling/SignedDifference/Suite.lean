import SignedDifference.Oracle

/-!
# Checking a suite

A suite is checked by stepping an oracle until a verdict fails or none is left.  The answer is the
number of cases, or the first mismatch.
-/

set_option autoImplicit false

namespace SignedDifference

namespace Oracle

variable {σ : Type}

/-- The first failed verdict to come, and the oracle just after it or at the end. -/
def firstMismatch (subtract : Subtractor σ) (oracle : Oracle σ) : Option Verdict × Oracle σ :=
  match _ : oracle.step subtract with
  | (none, after) => (none, after)
  | (some verdict, after) =>
      if verdict.passed then firstMismatch subtract after else (some verdict, after)
termination_by oracle.pending
decreasing_by exact pending_step (by assumption)

end Oracle

namespace Suite

variable {σ : Type}

/-- Checks the cases with a subtractor; the memory that it leaves is given as well. -/
def checkWith (subtract : Subtractor σ) (cases : List Case) (memory : σ) :
    Except SuiteError Nat × σ :=
  match (Oracle.start cases memory).firstMismatch subtract with
  | (some verdict, oracle) => (.error (.overflowMismatch verdict), oracle.memory)
  | (none, oracle) => (.ok cases.length, oracle.memory)

def checkMethod (method : Method) (cases : List Case) : Except SuiteError Nat :=
  (checkWith (Subtractor.ofMethod method) cases ()).1

def check (cases : List Case) : Except SuiteError Nat :=
  checkMethod .native cases

def run (cases : List Case) : ExitStatus :=
  ExitStatus.ofResult (check cases)

end Suite

end SignedDifference
