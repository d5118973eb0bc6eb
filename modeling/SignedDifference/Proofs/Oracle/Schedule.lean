import SignedDifference.Oracle

/-!
# Schedules

Actions performed one after another on one oracle, and the calls that they make to the subtractor.
A call is made for every verdict and for nothing else (`calls_eq_length`): an oracle whose
subtractor counts its calls goes through the same states and has counted the verdicts.
-/

set_option autoImplicit false

namespace SignedDifference.Oracle

variable {σ : Type}

def performAll (subtract : Subtractor σ) : Oracle σ → List Action → List Verdict × Oracle σ
  | oracle, [] => ([], oracle)
  | oracle, action :: later =>
      let (verdicts, after) := oracle.perform subtract action
      let (more, final) := performAll subtract after later
      (verdicts ++ more, final)

def withCalls (oracle : Oracle σ) (calls : Nat) : Oracle (σ × Nat) :=
  ⟨oracle.remaining, oracle.next, oracle.state, (oracle.memory, calls)⟩

def calls (subtract : Subtractor σ) (oracle : Oracle σ) (actions : List Action) : Nat :=
  ((oracle.withCalls 0).performAll subtract.counted actions).2.memory.2

/-- Stepping until there is no verdict comes to an end, with these verdicts. -/
inductive Drains (subtract : Subtractor σ) : Oracle σ → List Verdict → Oracle σ → Prop
  | stop {oracle after : Oracle σ} :
      oracle.step subtract = (none, after) → Drains subtract oracle [] after
  | verdict {oracle after final : Oracle σ} {verdict : Verdict} {verdicts : List Verdict} :
      oracle.step subtract = (some verdict, after) → Drains subtract after verdicts final →
        Drains subtract oracle (verdict :: verdicts) final

variable {subtract : Subtractor σ} {oracle after final : Oracle σ} {verdict : Verdict}
  {verdicts : List Verdict}

/-! ## What a step can do -/

/-- Without a verdict the subtractor is not called: the oracle is done, or it has no cases. -/
theorem step_eq_none (stepped : oracle.step subtract = (none, after)) :
    (∃ status, oracle.state = .done status ∧ after = oracle) ∨
      (oracle.state = .running ∧ oracle.remaining = [] ∧
        after = { oracle with state := .done .success }) := by
  obtain ⟨remaining, next, state, memory⟩ := oracle
  cases state with
  | done status => cases stepped; exact Or.inl ⟨status, rfl, rfl⟩
  | running =>
      cases remaining with
      | nil => cases stepped; exact Or.inr ⟨rfl, rfl, rfl⟩
      | cons case rest => simp [step] at stepped

theorem step_eq_some (stepped : oracle.step subtract = (some verdict, after)) :
    ∃ case rest, oracle.state = .running ∧ oracle.remaining = case :: rest ∧
      verdict = ⟨oracle.next, case, (subtract case.a case.b oracle.memory).1⟩ ∧
        after = ⟨rest, oracle.next + 1, stateAfter verdict rest,
          (subtract case.a case.b oracle.memory).2⟩ := by
  obtain ⟨remaining, next, state, memory⟩ := oracle
  cases state with
  | done status => simp [step] at stepped
  | running =>
      cases remaining with
      | nil => simp [step] at stepped
      | cons case rest => cases stepped; exact ⟨case, rest, rfl, rfl, rfl, rfl⟩

theorem step_of_next (subtract : Subtractor σ) {case : Case} {rest : List Case}
    (running : oracle.state = .running) (remaining : oracle.remaining = case :: rest) :
    ∃ verdict, verdict = ⟨oracle.next, case, (subtract case.a case.b oracle.memory).1⟩ ∧
      oracle.step subtract = (some verdict, ⟨rest, oracle.next + 1, stateAfter verdict rest,
        (subtract case.a case.b oracle.memory).2⟩) := by
  refine ⟨_, rfl, ?_⟩
  rw [step, running, remaining]

theorem step_of_missing (subtract : Subtractor σ) (running : oracle.state = .running)
    (missing : oracle.remaining = []) :
    oracle.step subtract = (none, { oracle with state := .done .success }) := by
  rw [step, running, missing]

theorem step_of_done {status : ExitStatus} (isDone : oracle.state = .done status) :
    oracle.step subtract = (none, oracle) := by
  rw [step, isDone]

theorem done_of_step_eq_none (stepped : oracle.step subtract = (none, after)) :
    ∃ status, after.state = .done status := by
  rcases step_eq_none stepped with ⟨status, isDone, rfl⟩ | ⟨_, _, rfl⟩
  · exact ⟨status, isDone⟩
  · exact ⟨.success, rfl⟩

theorem stateAfter_eq_failure_iff {rest : List Case} :
    stateAfter verdict rest = .done .failure ↔ verdict.passed = false := by
  unfold stateAfter
  cases verdict.passed <;> cases rest <;> simp

theorem stateAfter_eq_success_iff {rest : List Case} :
    stateAfter verdict rest = .done .success ↔ verdict.passed = true ∧ rest = [] := by
  unfold stateAfter
  cases verdict.passed <;> cases rest <;> simp

theorem stateAfter_eq_running_iff {rest : List Case} :
    stateAfter verdict rest = .running ↔ verdict.passed = true ∧ rest ≠ [] := by
  unfold stateAfter
  cases verdict.passed <;> cases rest <;> simp

/-! ## Draining -/

theorem drain_of_none (stepped : oracle.step subtract = (none, after)) :
    oracle.drain subtract = ([], after) := by
  rw [drain]
  split <;> simp_all

theorem drain_of_some (stepped : oracle.step subtract = (some verdict, after)) :
    oracle.drain subtract = (verdict :: (after.drain subtract).1, (after.drain subtract).2) := by
  rw [drain]
  split <;> simp_all

theorem drains_drain (subtract : Subtractor σ) (oracle : Oracle σ) :
    Drains subtract oracle (oracle.drain subtract).1 (oracle.drain subtract).2 := by
  induction size : oracle.pending using Nat.strongRecOn generalizing oracle with
  | ind size ih =>
      cases stepped : oracle.step subtract with
      | mk verdict? after =>
          cases verdict? with
          | none =>
              rw [drain_of_none stepped]
              exact .stop stepped
          | some verdict =>
              have smaller := pending_step stepped
              rw [drain_of_some stepped]
              exact .verdict stepped (ih after.pending (by omega) after rfl)

theorem Drains.drain_eq (drains : Drains subtract oracle verdicts final) :
    oracle.drain subtract = (verdicts, final) := by
  induction drains with
  | stop stepped => exact drain_of_none stepped
  | verdict stepped _ ih => rw [drain_of_some stepped, ih]

theorem Drains.done (drains : Drains subtract oracle verdicts final) :
    ∃ status, final.state = .done status := by
  induction drains with
  | stop stepped => exact done_of_step_eq_none stepped
  | verdict _ _ ih => exact ih

/-! ## Actions on an oracle that is done -/

theorem perform_of_done {status : ExitStatus} (isDone : oracle.state = .done status)
    (action : Action) : oracle.perform subtract action = ([], oracle) := by
  have stepped : oracle.step subtract = (none, oracle) := step_of_done isDone
  cases action with
  | inspect => rfl
  | step => rw [perform, stepped]; rfl
  | drain => exact drain_of_none stepped

theorem performAll_of_done {status : ExitStatus} (isDone : oracle.state = .done status)
    (actions : List Action) : oracle.performAll subtract actions = ([], oracle) := by
  induction actions with
  | nil => rfl
  | cons action later ih => simp only [performAll, perform_of_done isDone, ih, List.append_nil]

/-! ## Counting calls -/

/-- A step calls the subtractor if and only if it gives a verdict. -/
theorem step_counted (subtract : Subtractor σ) (oracle : Oracle σ) (calls : Nat) :
    (oracle.withCalls calls).step subtract.counted =
      ((oracle.step subtract).1,
        (oracle.step subtract).2.withCalls (calls + (oracle.step subtract).1.toList.length)) := by
  obtain ⟨remaining, next, state, memory⟩ := oracle
  cases state with
  | done status => rfl
  | running => cases remaining <;> rfl

theorem Drains.counted (drains : Drains subtract oracle verdicts final) :
    ∀ calls, Drains subtract.counted (oracle.withCalls calls) verdicts
      (final.withCalls (calls + verdicts.length)) := by
  induction drains with
  | stop stepped =>
      intro calls
      apply Drains.stop
      rw [step_counted, stepped]
      rfl
  | @verdict oracle after final verdict verdicts stepped _ ih =>
      intro calls
      have counted : (oracle.withCalls calls).step subtract.counted =
          (some verdict, after.withCalls (calls + 1)) := by
        rw [step_counted, stepped]
        rfl
      have later := ih (calls + 1)
      rw [Nat.add_right_comm, Nat.add_assoc] at later
      exact .verdict counted later

theorem drain_counted (subtract : Subtractor σ) (oracle : Oracle σ) (calls : Nat) :
    (oracle.withCalls calls).drain subtract.counted =
      ((oracle.drain subtract).1,
        (oracle.drain subtract).2.withCalls (calls + (oracle.drain subtract).1.length)) :=
  ((drains_drain subtract oracle).counted calls).drain_eq

theorem perform_counted (subtract : Subtractor σ) (oracle : Oracle σ) (action : Action)
    (calls : Nat) :
    (oracle.withCalls calls).perform subtract.counted action =
      ((oracle.perform subtract action).1,
        (oracle.perform subtract action).2.withCalls
          (calls + (oracle.perform subtract action).1.length)) := by
  cases action with
  | inspect => rfl
  | step => rw [perform, step_counted]; rfl
  | drain => exact drain_counted subtract oracle calls

theorem performAll_counted (subtract : Subtractor σ) (actions : List Action) :
    ∀ (oracle : Oracle σ) (calls : Nat),
      (oracle.withCalls calls).performAll subtract.counted actions =
        ((oracle.performAll subtract actions).1,
          (oracle.performAll subtract actions).2.withCalls
            (calls + (oracle.performAll subtract actions).1.length)) := by
  induction actions with
  | nil => intro oracle calls; rfl
  | cons action later ih =>
      intro oracle calls
      simp only [performAll, perform_counted, ih, List.length_append, Nat.add_assoc]

theorem calls_eq_length (subtract : Subtractor σ) (oracle : Oracle σ) (actions : List Action) :
    oracle.calls subtract actions = (oracle.performAll subtract actions).1.length := by
  rw [calls, performAll_counted]
  exact Nat.zero_add _

end SignedDifference.Oracle
