import SignedDifference.Proofs.Oracle.Invariant

/-!
# The trace of an oracle

The verdicts of a whole run are fixed by the cases and the subtractor: those on the cases in order,
up to the first mismatch.  Whatever is performed on the oracle, the verdicts so far are a beginning
of this trace, and all of it once there was a drain (`verdicts_independent_of_schedule`).
-/

set_option autoImplicit false

namespace SignedDifference.Oracle

variable {σ : Type}

/-- The verdicts on the cases in order, up to the first mismatch. -/
structure IsTrace (subtract : Subtractor σ) (cases : List Case) (memory : σ)
    (verdicts : List Verdict) : Prop where
  verdict_eq : ∀ index < verdicts.length, verdicts[index]? = subtract.verdictAt? cases memory index
  passes : ∀ index, index + 1 < verdicts.length → subtract.PassesAt cases memory index
  length_of_mismatch : ∀ index,
    subtract.FirstMismatchAt cases memory index → verdicts.length = index + 1
  length_of_passes :
    (∀ index, ¬ subtract.MismatchesAt cases memory index) → verdicts.length = cases.length

variable {subtract : Subtractor σ} {cases : List Case} {memory : σ} {given : List Verdict}
  {oracle : Oracle σ}

theorem IsTrace.length_eq {trace other : List Verdict}
    (isTrace : IsTrace subtract cases memory trace)
    (otherTrace : IsTrace subtract cases memory other) : trace.length = other.length := by
  by_cases mismatch : ∃ index, subtract.MismatchesAt cases memory index
  · obtain ⟨index, mismatches⟩ := mismatch
    obtain ⟨first, isFirst⟩ := mismatches.exists_first
    rw [isTrace.length_of_mismatch first isFirst, otherTrace.length_of_mismatch first isFirst]
  · have passes : ∀ index, ¬ subtract.MismatchesAt cases memory index :=
      fun index mismatches => mismatch ⟨index, mismatches⟩
    rw [isTrace.length_of_passes passes, otherTrace.length_of_passes passes]

theorem IsTrace.unique {trace other : List Verdict}
    (isTrace : IsTrace subtract cases memory trace)
    (otherTrace : IsTrace subtract cases memory other) : trace = other := by
  have length := isTrace.length_eq otherTrace
  apply List.ext_getElem?
  intro index
  by_cases within : index < trace.length
  · rw [isTrace.verdict_eq index within, otherTrace.verdict_eq index (by omega)]
  · rw [List.getElem?_eq_none (by omega), List.getElem?_eq_none (by omega)]

theorem Invariant.isTrace (kept : Invariant subtract cases memory given oracle)
    {status : ExitStatus} (isDone : oracle.state = .done status) :
    IsTrace subtract cases memory given := by
  have length := kept.given_length
  cases status with
  | success =>
      obtain ⟨atEnd, passes⟩ := kept.succeeded isDone
      have noMismatch := kept.not_mismatchesAt isDone
      exact
        { verdict_eq := fun index before => kept.given_eq index (by omega)
          passes := fun index before => passes index (by omega)
          length_of_mismatch := fun index first => absurd first.mismatches (noMismatch index)
          length_of_passes := fun _ => by omega }
  | failure =>
      obtain ⟨positive, first⟩ := kept.failed isDone
      exact
        { verdict_eq := fun index before => kept.given_eq index (by omega)
          passes := fun index before => first.earlier index (by omega)
          length_of_mismatch := fun index other => by
            have same := first.unique other
            omega
          length_of_passes := fun noMismatch => absurd first.mismatches (noMismatch _) }

theorem Invariant.append_drain (kept : Invariant subtract cases memory given oracle) :
    IsTrace subtract cases memory (given ++ (oracle.drain subtract).1) := by
  have drains := drains_drain subtract oracle
  obtain ⟨status, isDone⟩ := drains.done
  exact (Invariant.of_drains drains kept).isTrace isDone

theorem isTrace_drain (subtract : Subtractor σ) (cases : List Case) (memory : σ) :
    IsTrace subtract cases memory ((start cases memory).drain subtract).1 :=
  (start_invariant subtract cases memory).append_drain

theorem done_of_drain_mem (subtract : Subtractor σ) {actions : List Action}
    (drained : .drain ∈ actions) :
    ∀ oracle : Oracle σ, ∃ status, (oracle.performAll subtract actions).2.state = .done status := by
  induction actions with
  | nil => simp at drained
  | cons action later ih =>
      intro oracle
      rcases List.mem_cons.mp drained with rfl | inLater
      · obtain ⟨status, isDone⟩ := (drains_drain subtract oracle).done
        refine ⟨status, ?_⟩
        simp only [performAll, perform, performAll_of_done isDone later]
        exact isDone
      · exact ih inLater _

/-- Stepping and draining in any order gives a beginning of one trace, with a call for every
verdict; a drain always ends, and it gives all that is left of the trace. -/
theorem verdicts_independent_of_schedule (subtract : Subtractor σ) (cases : List Case)
    (memory : σ) :
    ∃ trace, IsTrace subtract cases memory trace ∧
      ∀ actions, ∃ given oracle,
        (start cases memory).performAll subtract actions = (given, oracle) ∧
          given <+: trace ∧
          (.drain ∈ actions → given = trace) ∧
          (start cases memory).calls subtract actions = given.length ∧
          oracle.memory = subtract.memoryAfter (cases.take given.length) memory ∧
          ∃ more final, oracle.drain subtract = (more, final) ∧
            Drains subtract oracle more final ∧ given ++ more = trace := by
  have whole := isTrace_drain subtract cases memory
  refine ⟨((start cases memory).drain subtract).1, whole, ?_⟩
  intro actions
  cases performed : (start cases memory).performAll subtract actions with
  | mk given oracle =>
      have kept := Invariant.of_schedule subtract cases memory actions
      rw [performed] at kept
      have completed := kept.append_drain.unique whole
      refine ⟨given, oracle, rfl, ⟨_, completed⟩, ?_, ?_, ?_, ?_⟩
      · intro drained
        obtain ⟨status, isDone⟩ := done_of_drain_mem subtract drained (start cases memory)
        rw [performed] at isDone
        exact (kept.isTrace isDone).unique whole
      · rw [calls_eq_length, performed]
      · rw [kept.given_length]
        exact kept.memory_eq
      · exact ⟨_, _, rfl, drains_drain subtract oracle, completed⟩

/-- A subtractor that answers by script gets the flag of the second of three cases wrong. -/
theorem schedule_stops_at_second_case :
    ∃ trace, trace.length = 2 ∧
      (performAll Subtractor.scripted
        (start [⟨1, 1, false⟩, ⟨2, 1, false⟩, ⟨3, 1, false⟩] [⟨0, false⟩, ⟨1, true⟩])
        [.step, .inspect, .drain, .step]).1 = trace := by
  obtain ⟨trace, isTrace, onSchedule⟩ := verdicts_independent_of_schedule Subtractor.scripted
    [⟨1, 1, false⟩, ⟨2, 1, false⟩, ⟨3, 1, false⟩] [⟨0, false⟩, ⟨1, true⟩]
  obtain ⟨given, oracle, performed, _, drained, _⟩ := onSchedule [.step, .inspect, .drain, .step]
  refine ⟨trace, isTrace.length_of_mismatch 1 ⟨⟨_, rfl, by decide⟩, ?_⟩, ?_⟩
  · intro before first
    obtain rfl : before = 0 := by omega
    exact ⟨_, rfl, by decide⟩
  · rw [performed]
    exact drained (by decide)

end SignedDifference.Oracle
