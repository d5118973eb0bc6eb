import SignedDifference.Subtractor
import SignedDifference.Verdict

/-!
# The oracle

Drives a subtractor over a list of cases, one step at a time, and stops for good at the first
mismatch.  Every step that gives a verdict calls the subtractor once; a step that gives none leaves
the oracle done.  Draining steps until there is no verdict, which ends because every verdict
shortens the list of cases to come.
-/

set_option autoImplicit false

namespace SignedDifference

namespace Oracle

inductive State
  | running
  | done (status : ExitStatus)
deriving DecidableEq, Repr, Inhabited

end Oracle

/-- The cases still to come, the position of the first of them, the state of the run, and the
memory of the subtractor. -/
structure Oracle (σ : Type) where
  remaining : List Case
  next : Nat
  state : Oracle.State
  memory : σ

namespace Oracle

variable {σ : Type}

def start (cases : List Case) (memory : σ) : Oracle σ :=
  ⟨cases, 0, .running, memory⟩

def stateAfter (verdict : Verdict) (remaining : List Case) : State :=
  if !verdict.passed then .done .failure
  else if remaining.isEmpty then .done .success
  else .running

def step (subtract : Subtractor σ) (oracle : Oracle σ) : Option Verdict × Oracle σ :=
  match oracle.state, oracle.remaining with
  | .done _, _ => (none, oracle)
  | .running, [] => (none, { oracle with state := .done .success })
  | .running, case :: rest =>
      let (observed, memory) := subtract case.a case.b oracle.memory
      let verdict := ⟨oracle.next, case, observed⟩
      (some verdict, ⟨rest, oracle.next + 1, stateAfter verdict rest, memory⟩)

/-- A bound on the verdicts to come. -/
def pending (oracle : Oracle σ) : Nat :=
  oracle.remaining.length

theorem pending_step {subtract : Subtractor σ} {oracle after : Oracle σ} {verdict : Verdict}
    (stepped : oracle.step subtract = (some verdict, after)) :
    after.pending < oracle.pending := by
  obtain ⟨remaining, next, state, memory⟩ := oracle
  cases state with
  | done status => simp [step] at stepped
  | running =>
      cases remaining with
      | nil => simp [step] at stepped
      | cons case rest =>
          simp only [step, Prod.mk.injEq] at stepped
          rw [← stepped.2]
          simp [pending]

def drain (subtract : Subtractor σ) (oracle : Oracle σ) : List Verdict × Oracle σ :=
  match _ : oracle.step subtract with
  | (none, after) => ([], after)
  | (some verdict, after) =>
      let (verdicts, final) := drain subtract after
      (verdict :: verdicts, final)
termination_by oracle.pending
decreasing_by exact pending_step (by assumption)

inductive Action
  | inspect
  | step
  | drain
deriving DecidableEq, Repr, Inhabited

def perform (subtract : Subtractor σ) (oracle : Oracle σ) : Action → List Verdict × Oracle σ
  | .inspect => ([], oracle)
  | .step => ((oracle.step subtract).1.toList, (oracle.step subtract).2)
  | .drain => oracle.drain subtract

end Oracle

end SignedDifference
