import SignedDifference.Proofs.Oracle.Answers
import SignedDifference.Proofs.Oracle.Schedule

/-!
# The invariant of an oracle

The position, the state, the cases to come and the verdicts given so far belong together.  A step
keeps them together (`Invariant.step`), so every schedule does (`Invariant.performAll`), and they
hold after any number of steps from the start (`steps_keep_invariant`).
-/

set_option autoImplicit false

namespace SignedDifference.Oracle

variable {σ : Type}

/-- What holds of an oracle that was started over the cases and has given these verdicts. -/
structure Invariant (subtract : Subtractor σ) (cases : List Case) (memory : σ)
    (given : List Verdict) (oracle : Oracle σ) : Prop where
  next_le : oracle.next ≤ cases.length
  remaining_eq : oracle.remaining = cases.drop oracle.next
  memory_eq : oracle.memory = subtract.memoryAfter (cases.take oracle.next) memory
  given_length : given.length = oracle.next
  given_eq : ∀ index < oracle.next, given[index]? = subtract.verdictAt? cases memory index
  running : oracle.state = .running →
    (∀ index < oracle.next, subtract.PassesAt cases memory index) ∧
      (oracle.next < cases.length ∨ cases = [] ∧ oracle.next = 0)
  succeeded : oracle.state = .done .success →
    oracle.next = cases.length ∧ ∀ index < cases.length, subtract.PassesAt cases memory index
  failed : oracle.state = .done .failure →
    1 ≤ oracle.next ∧ subtract.FirstMismatchAt cases memory (oracle.next - 1)

variable {subtract : Subtractor σ} {cases : List Case} {memory : σ} {given : List Verdict}
  {oracle after final : Oracle σ}

theorem start_invariant (subtract : Subtractor σ) (cases : List Case) (memory : σ) :
    Invariant subtract cases memory [] (start cases memory) where
  next_le := Nat.zero_le _
  remaining_eq := rfl
  memory_eq := rfl
  given_length := rfl
  given_eq := by
    intro index before
    exact absurd before (Nat.not_lt_zero index)
  running := by
    intro _
    constructor
    · intro index before
      exact absurd before (Nat.not_lt_zero index)
    · cases cases with
      | nil => exact Or.inr ⟨rfl, rfl⟩
      | cons case rest => exact Or.inl (Nat.zero_lt_succ _)
  succeeded := nofun
  failed := nofun

namespace Invariant

/-- The branch for a missing case needs an empty suite. -/
theorem eq_nil_of_remaining (kept : Invariant subtract cases memory given oracle)
    (running : oracle.state = .running) (missing : oracle.remaining = []) : cases = [] := by
  rcases (kept.running running).2 with before | ⟨empty, _⟩
  · rw [kept.remaining_eq, List.drop_eq_nil_iff] at missing
    omega
  · exact empty

theorem not_mismatchesAt (kept : Invariant subtract cases memory given oracle)
    (success : oracle.state = .done .success) (index : Nat) :
    ¬ subtract.MismatchesAt cases memory index := by
  intro mismatches
  have passes := (kept.succeeded success).2 index mismatches.lt_length
  exact passes.not_mismatchesAt mismatches

theorem of_step_none (kept : Invariant subtract cases memory given oracle)
    (stepped : oracle.step subtract = (none, after)) :
    Invariant subtract cases memory given after := by
  rcases step_eq_none stepped with ⟨_, _, rfl⟩ | ⟨running, missing, rfl⟩
  · exact kept
  · have empty := kept.eq_nil_of_remaining running missing
    have atEnd : oracle.next = cases.length := by
      have bound := kept.next_le
      rw [empty, List.length_nil] at bound ⊢
      omega
    exact
      { kept with
        running := nofun
        succeeded := fun _ => ⟨atEnd, fun index before =>
          (kept.running running).1 index (by omega)⟩
        failed := nofun }

theorem next_case {case : Case} {rest : List Case}
    (kept : Invariant subtract cases memory given oracle)
    (remaining : oracle.remaining = case :: rest) :
    cases[oracle.next]? = some case ∧ rest = cases.drop (oracle.next + 1) ∧
      oracle.next + 1 + rest.length = cases.length := by
  have front : case :: rest = cases.drop oracle.next := remaining.symm.trans kept.remaining_eq
  refine ⟨?_, ?_, ?_⟩
  · rw [← List.head?_drop, ← front, List.head?_cons]
  · rw [← List.tail_drop, ← front, List.tail_cons]
  · have sizes := congrArg List.length front
    have bound := kept.next_le
    rw [List.length_drop, List.length_cons] at sizes
    omega

theorem verdictAt?_next {verdict : Verdict} (kept : Invariant subtract cases memory given oracle)
    (stepped : oracle.step subtract = (some verdict, after)) :
    subtract.verdictAt? cases memory oracle.next = some verdict := by
  obtain ⟨case, rest, _, remaining, isVerdict, _⟩ := step_eq_some stepped
  obtain ⟨present, _⟩ := kept.next_case remaining
  rw [Subtractor.verdictAt?_eq_some present, ← kept.memory_eq, isVerdict]

theorem given_concat {verdict : Verdict} (kept : Invariant subtract cases memory given oracle)
    (found : subtract.verdictAt? cases memory oracle.next = some verdict) :
    ∀ index < oracle.next + 1,
      (given ++ [verdict])[index]? = subtract.verdictAt? cases memory index := by
  have length := kept.given_length
  rw [Nat.forall_lt_succ_right]
  constructor
  · intro index before
    rw [List.getElem?_append_left (by omega)]
    exact kept.given_eq index before
  · rw [found, ← length, List.getElem?_concat_length]

theorem of_step_some {verdict : Verdict} (kept : Invariant subtract cases memory given oracle)
    (stepped : oracle.step subtract = (some verdict, after)) :
    Invariant subtract cases memory (given ++ [verdict]) after := by
  obtain ⟨case, rest, running, remaining, _, rfl⟩ := step_eq_some stepped
  obtain ⟨present, later, length⟩ := kept.next_case remaining
  have found := kept.verdictAt?_next stepped
  have passedBefore := (kept.running running).1
  have passedThrough : verdict.passed = true →
      ∀ index < oracle.next + 1, subtract.PassesAt cases memory index :=
    fun passed => Nat.forall_lt_succ_right.mpr ⟨passedBefore, verdict, found, passed⟩
  refine
    { next_le := Nat.le.intro length
      remaining_eq := later
      memory_eq := ?memory_eq
      given_length := by rw [List.length_append, kept.given_length]; rfl
      given_eq := kept.given_concat found
      running := ?running
      succeeded := ?succeeded
      failed := ?failed }
  case memory_eq => rw [Subtractor.memoryAfter_take_succ present, ← kept.memory_eq]
  case running =>
    intro stillRunning
    obtain ⟨passed, more⟩ := stateAfter_eq_running_iff.mp stillRunning
    have positive : 0 < rest.length := List.length_pos_iff.mpr more
    exact ⟨passedThrough passed, Or.inl (by simp only; omega)⟩
  case succeeded =>
    intro success
    obtain ⟨passed, noMore⟩ := stateAfter_eq_success_iff.mp success
    rw [noMore, List.length_nil] at length
    exact ⟨length, fun index before => passedThrough passed index (by omega)⟩
  case failed =>
    intro failure
    have mismatch := stateAfter_eq_failure_iff.mp failure
    exact ⟨Nat.succ_pos _, ⟨verdict, found, mismatch⟩, passedBefore⟩

theorem step (kept : Invariant subtract cases memory given oracle) :
    Invariant subtract cases memory (given ++ (oracle.step subtract).1.toList)
      (oracle.step subtract).2 := by
  cases stepped : oracle.step subtract with
  | mk verdict? after =>
      cases verdict? with
      | none =>
          rw [Option.toList_none, List.append_nil]
          exact kept.of_step_none stepped
      | some verdict => exact kept.of_step_some stepped

theorem of_drains {verdicts : List Verdict} (drains : Drains subtract oracle verdicts final) :
    ∀ {given : List Verdict}, Invariant subtract cases memory given oracle →
      Invariant subtract cases memory (given ++ verdicts) final := by
  induction drains with
  | stop stepped =>
      intro given kept
      rw [List.append_nil]
      exact kept.of_step_none stepped
  | @verdict oracle after final verdict verdicts stepped _ ih =>
      intro given kept
      rw [← List.singleton_append, ← List.append_assoc]
      exact ih (kept.of_step_some stepped)

theorem of_drained {verdicts : List Verdict}
    (drains : Drains subtract (start cases memory) verdicts final) :
    Invariant subtract cases memory verdicts final :=
  of_drains drains (start_invariant subtract cases memory)

theorem perform (kept : Invariant subtract cases memory given oracle) (action : Action) :
    Invariant subtract cases memory (given ++ (oracle.perform subtract action).1)
      (oracle.perform subtract action).2 := by
  cases action with
  | inspect =>
      simp only [Oracle.perform, List.append_nil]
      exact kept
  | step => exact kept.step
  | drain => exact of_drains (drains_drain subtract oracle) kept

theorem performAll (actions : List Action) :
    ∀ {given : List Verdict} {oracle : Oracle σ},
      Invariant subtract cases memory given oracle →
        Invariant subtract cases memory (given ++ (oracle.performAll subtract actions).1)
          (oracle.performAll subtract actions).2 := by
  induction actions with
  | nil =>
      intro given oracle kept
      simp only [Oracle.performAll, List.append_nil]
      exact kept
  | cons action later ih =>
      intro given oracle kept
      simp only [Oracle.performAll, ← List.append_assoc]
      exact ih (kept.perform action)

theorem of_schedule (subtract : Subtractor σ) (cases : List Case) (memory : σ)
    (actions : List Action) :
    Invariant subtract cases memory ((start cases memory).performAll subtract actions).1
      ((start cases memory).performAll subtract actions).2 :=
  performAll actions (start_invariant subtract cases memory)

end Invariant

/-- After any number of steps from the start: the position counts the calls, the state tells what
the answers so far were, and an oracle that is done stays as it is. -/
theorem steps_keep_invariant (subtract : Subtractor σ) (cases : List Case) (memory : σ)
    (count : Nat) :
    ∃ given oracle,
      (start cases memory).performAll subtract (List.replicate count .step) = (given, oracle) ∧
        Invariant subtract cases memory given oracle ∧
        (start cases memory).calls subtract (List.replicate count .step) = oracle.next ∧
        (oracle.state = .running → oracle.remaining = [] → cases = []) ∧
        (∀ status, oracle.state = .done status → ∀ further,
          oracle.performAll subtract (List.replicate further .step) = ([], oracle) ∧
            oracle.calls subtract (List.replicate further .step) = 0) ∧
        ((oracle.step subtract).1 = none →
          ∃ status, (oracle.step subtract).2.state = .done status) := by
  cases performed : (start cases memory).performAll subtract (List.replicate count .step) with
  | mk given oracle =>
      have kept := Invariant.of_schedule subtract cases memory (List.replicate count .step)
      rw [performed] at kept
      refine ⟨given, oracle, rfl, kept, ?_, kept.eq_nil_of_remaining, ?_, ?_⟩
      · rw [calls_eq_length, performed]
        exact kept.given_length
      · intro status isDone further
        have idle : oracle.performAll subtract (List.replicate further .step) = ([], oracle) :=
          performAll_of_done isDone _
        refine ⟨idle, ?_⟩
        rw [calls_eq_length, idle]
        rfl
      · intro noVerdict
        exact done_of_step_eq_none (Prod.ext noVerdict rfl)

/-- The second of two cases is expected not to overflow, though it does. -/
theorem invariant_past_mismatch :
    ∃ given oracle,
      (start [⟨1, 1, false⟩, ⟨Int64.minValue, 1, false⟩] ()).performAll
          (Subtractor.ofMethod .native) (List.replicate 3 .step) = (given, oracle) ∧
        oracle.state = .done .failure ∧
        Subtractor.FirstMismatchAt (Subtractor.ofMethod .native)
          [⟨1, 1, false⟩, ⟨Int64.minValue, 1, false⟩] () 1 := by
  obtain ⟨given, oracle, performed, kept, _⟩ := steps_keep_invariant (Subtractor.ofMethod .native)
    [⟨1, 1, false⟩, ⟨Int64.minValue, 1, false⟩] () 3
  have failure : oracle.state = .done .failure := by
    rw [← congrArg (fun run => run.2.state) performed]
    decide
  have position : oracle.next = 2 := by
    rw [← congrArg (fun run => run.2.next) performed]
    decide
  have first := (kept.failed failure).2
  rw [position] at first
  exact ⟨given, oracle, performed, failure, first⟩

end SignedDifference.Oracle
