import SignedDifference.Proofs.Oracle.Trace
import SignedDifference.Suite

/-!
# Checked suites

Checking a suite is draining an oracle and looking for the first verdict that failed, because the
oracle stops there by itself (`firstMismatch_eq`).  So the check answers with the first case that
gets another answer than it expects, after as many calls as there are cases up to it, or with the
number of cases, after a call for each (`checkWith_finds_first_mismatch`).
-/

set_option autoImplicit false

namespace SignedDifference

variable {σ : Type}

namespace Oracle

variable {subtract : Subtractor σ} {oracle after final : Oracle σ} {verdict : Verdict}
  {verdicts : List Verdict}

theorem firstMismatch_of_none (stepped : oracle.step subtract = (none, after)) :
    oracle.firstMismatch subtract = (none, after) := by
  rw [firstMismatch]
  split <;> simp_all

theorem firstMismatch_of_some (stepped : oracle.step subtract = (some verdict, after)) :
    oracle.firstMismatch subtract =
      if verdict.passed then after.firstMismatch subtract else (some verdict, after) := by
  rw [firstMismatch]
  split <;> simp_all

theorem Drains.firstMismatch_eq (drains : Drains subtract oracle verdicts final) :
    oracle.firstMismatch subtract = (verdicts.find? fun verdict => !verdict.passed, final) := by
  induction drains with
  | stop stepped => exact firstMismatch_of_none stepped
  | @verdict oracle after final verdict verdicts stepped drains ih =>
      rw [firstMismatch_of_some stepped]
      cases passed : verdict.passed with
      | true =>
          rw [if_pos rfl, ih, List.find?_cons_of_neg (by simp [passed])]
      | false =>
          obtain ⟨_, rest, _, _, _, rfl⟩ := step_eq_some stepped
          have isDone : stateAfter verdict rest = .done .failure :=
            stateAfter_eq_failure_iff.mpr passed
          have idle := drains.drain_eq.symm.trans (drain_of_none (step_of_done isDone))
          cases idle
          rw [if_neg (by decide), List.find?_cons_of_pos (by simp [passed])]

variable {cases : List Case} {memory : σ} {given : List Verdict}

namespace Invariant

theorem passed_of_passesAt {index : Nat} (kept : Invariant subtract cases memory given oracle)
    (found : given[index]? = some verdict) (passes : subtract.PassesAt cases memory index) :
    verdict.passed = true := by
  have within := (List.getElem?_eq_some_iff.mp found).1
  rw [kept.given_length] at within
  obtain ⟨other, foundOther, passed⟩ := passes
  rw [kept.given_eq index within, foundOther] at found
  obtain rfl := Option.some.inj found
  exact passed

theorem find?_of_success (kept : Invariant subtract cases memory given oracle)
    (success : oracle.state = .done .success) :
    given.find? (fun verdict => !verdict.passed) = none := by
  obtain ⟨atEnd, passes⟩ := kept.succeeded success
  have length := kept.given_length
  rw [List.find?_eq_none]
  intro verdict member
  obtain ⟨index, found⟩ := List.mem_iff_getElem?.mp member
  have within := (List.getElem?_eq_some_iff.mp found).1
  have passed := kept.passed_of_passesAt found (passes index (by omega))
  simp [passed]

theorem exists_of_failure (kept : Invariant subtract cases memory given oracle)
    (failure : oracle.state = .done .failure) :
    ∃ verdict, subtract.FirstMismatchAt cases memory verdict.index ∧
      subtract.verdictAt? cases memory verdict.index = some verdict ∧
      given.length = verdict.index + 1 ∧ given.getLast? = some verdict ∧
      given.find? (fun verdict => !verdict.passed) = some verdict := by
  obtain ⟨positive, first⟩ := kept.failed failure
  obtain ⟨verdict, found, mismatch⟩ := first.mismatches
  have length := kept.given_length
  have last : given[oracle.next - 1]? = some verdict := by
    rw [kept.given_eq _ (by omega), found]
  have position := Subtractor.index_of_verdictAt? found
  refine ⟨verdict, ?_, ?_, by omega, ?_, ?_⟩
  · rwa [position]
  · rwa [position]
  · rw [List.getLast?_eq_getElem?, length, last]
  · obtain ⟨within, atEnd⟩ := List.getElem?_eq_some_iff.mp last
    rw [List.find?_eq_some_iff_getElem]
    refine ⟨by simp [mismatch], oracle.next - 1, within, atEnd, ?_⟩
    intro index before
    have foundEarlier : given[index]? = some given[index] := List.getElem?_eq_getElem (by omega)
    have passed := kept.passed_of_passesAt foundEarlier (first.earlier index before)
    simp [passed]

end Invariant

end Oracle

namespace Suite

def calls (subtract : Subtractor σ) (cases : List Case) (memory : σ) : Nat :=
  (checkWith subtract.counted cases (memory, 0)).2.2

variable {subtract : Subtractor σ} {cases : List Case} {memory : σ} {verdicts : List Verdict}
  {final : Oracle σ}

theorem checkWith_of_drains (drains : (Oracle.start cases memory).Drains subtract verdicts final) :
    checkWith subtract cases memory =
      (match verdicts.find? fun verdict => !verdict.passed with
        | some verdict => .error (.overflowMismatch verdict)
        | none => .ok cases.length,
       final.memory) := by
  rw [checkWith, drains.firstMismatch_eq]
  cases verdicts.find? fun verdict => !verdict.passed <;> rfl

theorem calls_of_drains (drains : (Oracle.start cases memory).Drains subtract verdicts final) :
    calls subtract cases memory = verdicts.length := by
  have counted : (Oracle.start cases (memory, 0)).Drains subtract.counted verdicts
      (final.withCalls (0 + verdicts.length)) := drains.counted 0
  rw [calls, checkWith_of_drains counted]
  exact Nat.zero_add _

theorem checkWith_of_success (drains : (Oracle.start cases memory).Drains subtract verdicts final)
    (success : final.state = .done .success) :
    checkWith subtract cases memory = (.ok cases.length, final.memory) ∧
      calls subtract cases memory = cases.length := by
  have kept := Oracle.Invariant.of_drained drains
  constructor
  · rw [checkWith_of_drains drains, kept.find?_of_success success]
  · rw [calls_of_drains drains, kept.given_length]
    exact (kept.succeeded success).1

theorem checkWith_of_failure (drains : (Oracle.start cases memory).Drains subtract verdicts final)
    (failure : final.state = .done .failure) :
    ∃ verdict,
      checkWith subtract cases memory = (.error (.overflowMismatch verdict), final.memory) ∧
      subtract.FirstMismatchAt cases memory verdict.index ∧
      subtract.verdictAt? cases memory verdict.index = some verdict ∧
      calls subtract cases memory = verdict.index + 1 ∧ verdicts.getLast? = some verdict := by
  have kept := Oracle.Invariant.of_drained drains
  obtain ⟨verdict, first, found, length, last, firstFailed⟩ := kept.exists_of_failure failure
  refine ⟨verdict, ?_, first, found, ?_, last⟩
  · rw [checkWith_of_drains drains, firstFailed]
  · rw [calls_of_drains drains, length]

/-- A check gives the number of cases if nothing mismatches, and else the first mismatch, and the
drained oracle ends accordingly. -/
theorem checkWith_ok_or_firstMismatch (subtract : Subtractor σ) (cases : List Case) (memory : σ) :
    ((∀ index, ¬ subtract.MismatchesAt cases memory index) ∧
        (checkWith subtract cases memory).1 = .ok cases.length ∧
        calls subtract cases memory = cases.length ∧
        ((Oracle.start cases memory).drain subtract).2.state = .done .success) ∨
      ∃ verdict, (checkWith subtract cases memory).1 = .error (.overflowMismatch verdict) ∧
        subtract.FirstMismatchAt cases memory verdict.index ∧
        subtract.verdictAt? cases memory verdict.index = some verdict ∧
        calls subtract cases memory = verdict.index + 1 ∧
        ((Oracle.start cases memory).drain subtract).1.getLast? = some verdict ∧
        ((Oracle.start cases memory).drain subtract).2.state = .done .failure := by
  have drains := Oracle.drains_drain subtract (Oracle.start cases memory)
  obtain ⟨status, isDone⟩ := drains.done
  cases status with
  | success =>
      obtain ⟨checked, counted⟩ := checkWith_of_success drains isDone
      have kept := Oracle.Invariant.of_drained drains
      exact Or.inl ⟨kept.not_mismatchesAt isDone, by rw [checked], counted, isDone⟩
  | failure =>
      obtain ⟨verdict, checked, first, found, counted, last⟩ := checkWith_of_failure drains isDone
      exact Or.inr ⟨verdict, by rw [checked], first, found, counted, last, isDone⟩

/-- A check finds the first mismatch, or that there is none, and a drained oracle agrees. -/
theorem checkWith_finds_first_mismatch (subtract : Subtractor σ) (cases : List Case)
    (memory : σ) :
    ∃ result left verdicts final,
      checkWith subtract cases memory = (result, left) ∧
        (Oracle.start cases memory).drain subtract = (verdicts, final) ∧
        ((∃ verdict, result = .error (.overflowMismatch verdict)) ↔
          ∃ index, subtract.MismatchesAt cases memory index) ∧
        (∀ verdict, result = .error (.overflowMismatch verdict) →
          subtract.FirstMismatchAt cases memory verdict.index ∧
            subtract.verdictAt? cases memory verdict.index = some verdict ∧
            calls subtract cases memory = verdict.index + 1 ∧
            verdicts.getLast? = some verdict) ∧
        ((¬ ∃ index, subtract.MismatchesAt cases memory index) →
          result = .ok cases.length ∧ calls subtract cases memory = cases.length) ∧
        final.state = .done (ExitStatus.ofResult result) := by
  rcases checkWith_ok_or_firstMismatch subtract cases memory with
    ⟨none, checked, counted, isDone⟩ | ⟨verdict, checked, first, found, counted, last, isDone⟩
  · refine ⟨_, _, _, _, Prod.ext checked rfl, rfl, ?_, nofun, ?_, isDone⟩
    · exact iff_of_false (by simp) (not_exists.mpr none)
    · intro _
      exact ⟨rfl, counted⟩
  · have mismatch : ∃ index, subtract.MismatchesAt cases memory index :=
      ⟨verdict.index, first.mismatches⟩
    refine ⟨_, _, _, _, Prod.ext checked rfl, rfl, ?_, ?_, ?_, isDone⟩
    · exact iff_of_true ⟨verdict, rfl⟩ mismatch
    · intro other same
      cases same
      exact ⟨first, found, counted, last⟩
    · intro noMismatch
      exact absurd mismatch noMismatch

/-- A subtractor that never reports an overflow is caught at the first case that expects one. -/
theorem check_catches_stuck_flag :
    ∃ verdict left,
      checkWith (Subtractor.stuckFlag false) Case.boundary () =
          (.error (.overflowMismatch verdict), left) ∧
        verdict.index = 2 ∧ calls (Subtractor.stuckFlag false) Case.boundary () = 3 := by
  obtain ⟨result, left, verdicts, final, checked, _, fails, onError, _⟩ :=
    checkWith_finds_first_mismatch (Subtractor.stuckFlag false) Case.boundary ()
  have isFirst : Subtractor.FirstMismatchAt (Subtractor.stuckFlag false) Case.boundary () 2 := by
    refine ⟨⟨_, rfl, by decide⟩, ?_⟩
    intro before early
    rcases (by omega : before = 0 ∨ before = 1) with rfl | rfl
    · exact ⟨_, rfl, by decide⟩
    · exact ⟨_, rfl, by decide⟩
  obtain ⟨verdict, rfl⟩ := fails.mpr ⟨2, isFirst.mismatches⟩
  obtain ⟨first, _, counted, _⟩ := onError verdict rfl
  have position := first.unique isFirst
  rw [position] at counted
  exact ⟨verdict, left, checked, position, counted⟩

end Suite

end SignedDifference
