import Mathlib.Data.List.Forall2
import SignedDifference.Proofs.Oracle.Composition

/-!
# Runs in lockstep

Two subtractors with different memories that answer the calls of a run with the same flags, and
with any wrapped words.  Their oracles stay in lockstep: a step takes both to the same state
(`Lockstep.step`), so every schedule does (`Lockstep.performAll`), and the verdicts differ at most
in the wrapped word.  So a run and a check depend on the flags alone (`flags_alone_decide`).
-/

set_option autoImplicit false

namespace SignedDifference

variable {σ τ : Type}

/-- The verdicts differ at most in the wrapped word. -/
structure Verdict.Alike (verdict twin : Verdict) : Prop where
  index_eq : verdict.index = twin.index
  case_eq : verdict.case = twin.case
  passed_eq : verdict.passed = twin.passed

theorem Verdict.find?_of_alike {verdicts twins : List Verdict}
    (alike : List.Forall₂ Verdict.Alike verdicts twins) :
    (verdicts.find? (fun verdict => !verdict.passed) = none ∧
        twins.find? (fun verdict => !verdict.passed) = none) ∨
      ∃ verdict twin, verdicts.find? (fun verdict => !verdict.passed) = some verdict ∧
        twins.find? (fun verdict => !verdict.passed) = some twin ∧ verdict.Alike twin := by
  induction alike with
  | nil => exact Or.inl ⟨rfl, rfl⟩
  | @cons verdict twin verdicts twins same _ ih =>
      rw [List.find?_cons, List.find?_cons, ← same.passed_eq]
      cases verdict.passed with
      | true => exact ih
      | false => exact Or.inr ⟨verdict, twin, rfl, rfl, same⟩

/-- Call by call of a run over the cases with the first subtractor, the second gives the same flag.
What the two would answer about the cases behind the last call does not matter. -/
def Subtractor.SameFlags (subtract : Subtractor σ) (other : Subtractor τ) (cases : List Case)
    (memory : σ) (otherMemory : τ) : Prop :=
  ∀ call < Suite.calls subtract cases memory, ∀ verdict twin,
    subtract.verdictAt? cases memory call = some verdict →
      other.verdictAt? cases otherMemory call = some twin →
        verdict.observed.overflowed = twin.observed.overflowed

theorem Suite.lt_calls {subtract : Subtractor σ} {cases : List Case} {memory : σ} {index : Nat}
    (within : index < cases.length)
    (passes : ∀ before < index, subtract.PassesAt cases memory before) :
    index < calls subtract cases memory := by
  have drains := Oracle.drains_drain subtract (Oracle.start cases memory)
  obtain ⟨status, isDone⟩ := drains.done
  cases status with
  | success => rwa [(checkWith_of_success drains isDone).2]
  | failure =>
      obtain ⟨verdict, _, first, _, counted, _⟩ := checkWith_of_failure drains isDone
      rw [counted]
      by_contra past
      exact (passes verdict.index (by omega)).not_mismatchesAt first.mismatches

namespace Oracle

/-- The oracles are in the same state at the same position, whatever their subtractors remember. -/
structure InStep (oracle : Oracle σ) (twin : Oracle τ) : Prop where
  remaining_eq : oracle.remaining = twin.remaining
  next_eq : oracle.next = twin.next
  state_eq : oracle.state = twin.state

structure Lockstep (subtract : Subtractor σ) (other : Subtractor τ) (cases : List Case)
    (memory : σ) (otherMemory : τ) (given twins : List Verdict) (oracle : Oracle σ)
    (twin : Oracle τ) : Prop where
  kept : Invariant subtract cases memory given oracle
  twinKept : Invariant other cases otherMemory twins twin
  alike : List.Forall₂ Verdict.Alike given twins
  inStep : oracle.InStep twin

variable {subtract : Subtractor σ} {other : Subtractor τ} {cases : List Case} {memory : σ}
  {otherMemory : τ} {given twins : List Verdict} {oracle after final : Oracle σ} {twin : Oracle τ}

theorem start_lockstep (subtract : Subtractor σ) (other : Subtractor τ) (cases : List Case)
    (memory : σ) (otherMemory : τ) :
    Lockstep subtract other cases memory otherMemory [] [] (start cases memory)
      (start cases otherMemory) where
  kept := start_invariant subtract cases memory
  twinKept := start_invariant other cases otherMemory
  alike := .nil
  inStep := ⟨rfl, rfl, rfl⟩

theorem stateAfter_of_alike {verdict other : Verdict} (alike : verdict.Alike other)
    (rest : List Case) : stateAfter verdict rest = stateAfter other rest := by
  rw [stateAfter, stateAfter, alike.passed_eq]

namespace Lockstep

theorem of_step_none
    (locked : Lockstep subtract other cases memory otherMemory given twins oracle twin)
    (stepped : oracle.step subtract = (none, after)) :
    ∃ twinAfter, twin.step other = (none, twinAfter) ∧
      Lockstep subtract other cases memory otherMemory given twins after twinAfter := by
  obtain ⟨sameRemaining, sameNext, sameState⟩ := locked.inStep
  rcases step_eq_none stepped with ⟨status, isDone, rfl⟩ | ⟨running, missing, rfl⟩
  · have twinStepped : twin.step other = (none, twin) := step_of_done (sameState ▸ isDone)
    exact ⟨twin, twinStepped, locked⟩
  · have twinStepped := step_of_missing other (sameState ▸ running) (sameRemaining ▸ missing)
    exact ⟨_, twinStepped,
      { kept := locked.kept.of_step_none stepped
        twinKept := locked.twinKept.of_step_none twinStepped
        alike := locked.alike
        inStep := ⟨sameRemaining, sameNext, rfl⟩ }⟩

/-- If the one oracle gives a verdict, the other gives one alike, because it is asked about the same
case and answers with the same flag. -/
theorem of_step_some (flags : subtract.SameFlags other cases memory otherMemory)
    (locked : Lockstep subtract other cases memory otherMemory given twins oracle twin)
    {verdict : Verdict} (stepped : oracle.step subtract = (some verdict, after)) :
    ∃ twinVerdict twinAfter, twin.step other = (some twinVerdict, twinAfter) ∧
      verdict.Alike twinVerdict ∧
      Lockstep subtract other cases memory otherMemory (given ++ [verdict])
        (twins ++ [twinVerdict]) after twinAfter := by
  obtain ⟨sameRemaining, sameNext, sameState⟩ := locked.inStep
  obtain ⟨case, rest, running, remaining, isVerdict, rfl⟩ := step_eq_some stepped
  obtain ⟨twinVerdict, isTwin, twinStepped⟩ :=
    step_of_next other (sameState ▸ running) (sameRemaining ▸ remaining)
  have found := locked.kept.verdictAt?_next stepped
  have twinFound := locked.twinKept.verdictAt?_next twinStepped
  rw [← sameNext] at twinFound
  have called := Suite.lt_calls (Subtractor.lt_length_of_verdictAt? found)
    (locked.kept.running running).1
  have sameFlag := flags oracle.next called verdict twinVerdict found twinFound
  have sameCase : verdict.case = twinVerdict.case := by rw [isVerdict, isTwin]
  have alike : verdict.Alike twinVerdict :=
    { index_eq := by rw [isVerdict, isTwin, sameNext]
      case_eq := sameCase
      passed_eq := by rw [Verdict.passed, Verdict.passed, sameFlag, sameCase] }
  exact ⟨twinVerdict, _, twinStepped, alike,
    { kept := locked.kept.of_step_some stepped
      twinKept := locked.twinKept.of_step_some twinStepped
      alike := List.rel_append locked.alike (.cons alike .nil)
      inStep := ⟨rfl, by rw [sameNext], stateAfter_of_alike alike rest⟩ }⟩

theorem step (flags : subtract.SameFlags other cases memory otherMemory)
    (locked : Lockstep subtract other cases memory otherMemory given twins oracle twin) :
    Lockstep subtract other cases memory otherMemory
      (given ++ (oracle.step subtract).1.toList) (twins ++ (twin.step other).1.toList)
      (oracle.step subtract).2 (twin.step other).2 := by
  cases stepped : oracle.step subtract with
  | mk verdict? after =>
      cases verdict? with
      | none =>
          obtain ⟨twinAfter, twinStepped, next⟩ := locked.of_step_none stepped
          simpa only [twinStepped, Option.toList_none, List.append_nil] using next
      | some verdict =>
          obtain ⟨twinVerdict, twinAfter, twinStepped, _, next⟩ :=
            locked.of_step_some flags stepped
          simpa only [twinStepped, Option.toList_some] using next

theorem of_drains (flags : subtract.SameFlags other cases memory otherMemory)
    {verdicts : List Verdict} (drains : Drains subtract oracle verdicts final) :
    ∀ {given twins : List Verdict} {twin : Oracle τ},
      Lockstep subtract other cases memory otherMemory given twins oracle twin →
        ∃ twinVerdicts twinFinal, Drains other twin twinVerdicts twinFinal ∧
          List.Forall₂ Verdict.Alike verdicts twinVerdicts ∧
          Lockstep subtract other cases memory otherMemory (given ++ verdicts)
            (twins ++ twinVerdicts) final twinFinal := by
  induction drains with
  | stop stepped =>
      intro given twins twin locked
      obtain ⟨twinAfter, twinStepped, next⟩ := locked.of_step_none stepped
      exact ⟨[], twinAfter, .stop twinStepped, .nil, by simpa only [List.append_nil] using next⟩
  | @verdict oracle after final verdict verdicts stepped _ ih =>
      intro given twins twin locked
      obtain ⟨twinVerdict, twinAfter, twinStepped, alike, next⟩ :=
        locked.of_step_some flags stepped
      obtain ⟨twinVerdicts, twinFinal, twinDrains, allAlike, last⟩ := ih next
      refine ⟨twinVerdict :: twinVerdicts, twinFinal, .verdict twinStepped twinDrains,
        .cons alike allAlike, ?_⟩
      simpa only [List.append_assoc, List.singleton_append] using last

theorem perform (flags : subtract.SameFlags other cases memory otherMemory)
    (locked : Lockstep subtract other cases memory otherMemory given twins oracle twin)
    (action : Action) :
    Lockstep subtract other cases memory otherMemory
      (given ++ (oracle.perform subtract action).1) (twins ++ (twin.perform other action).1)
      (oracle.perform subtract action).2 (twin.perform other action).2 := by
  cases action with
  | inspect =>
      simp only [Oracle.perform, List.append_nil]
      exact locked
  | step => exact locked.step flags
  | drain =>
      obtain ⟨twinVerdicts, twinFinal, twinDrains, _, next⟩ :=
        of_drains flags (drains_drain subtract oracle) locked
      simpa only [Oracle.perform, twinDrains.drain_eq] using next

theorem performAll (flags : subtract.SameFlags other cases memory otherMemory)
    (actions : List Action) :
    ∀ {given twins : List Verdict} {oracle : Oracle σ} {twin : Oracle τ},
      Lockstep subtract other cases memory otherMemory given twins oracle twin →
        Lockstep subtract other cases memory otherMemory
          (given ++ (oracle.performAll subtract actions).1)
          (twins ++ (twin.performAll other actions).1)
          (oracle.performAll subtract actions).2 (twin.performAll other actions).2 := by
  induction actions with
  | nil =>
      intro given twins oracle twin locked
      simp only [Oracle.performAll, List.append_nil]
      exact locked
  | cons action later ih =>
      intro given twins oracle twin locked
      simp only [Oracle.performAll, ← List.append_assoc]
      exact ih (locked.perform flags action)

end Lockstep

/-- With the same flags, call by call of the run, two subtractors lead their oracles through the
same states with as many calls, whatever is performed; the verdicts differ at most in the wrapped
word, and so do the answers of the two checks. -/
theorem flags_alone_decide (subtract : Subtractor σ) (other : Subtractor τ) (cases : List Case)
    (memory : σ) (otherMemory : τ)
    (flags : subtract.SameFlags other cases memory otherMemory) :
    (∀ actions, ∃ given twins oracle twin,
      (start cases memory).performAll subtract actions = (given, oracle) ∧
        (start cases otherMemory).performAll other actions = (twins, twin) ∧
        oracle.InStep twin ∧ given.length = twins.length ∧
        List.Forall₂ Verdict.Alike given twins ∧
        (start cases memory).calls subtract actions =
          (start cases otherMemory).calls other actions) ∧
      (((Suite.checkWith subtract cases memory).1 = .ok cases.length ∧
          (Suite.checkWith other cases otherMemory).1 = .ok cases.length) ∨
        ∃ verdict twin,
          (Suite.checkWith subtract cases memory).1 = .error (.overflowMismatch verdict) ∧
            (Suite.checkWith other cases otherMemory).1 = .error (.overflowMismatch twin) ∧
            verdict.Alike twin) ∧
      Suite.calls subtract cases memory = Suite.calls other cases otherMemory := by
  have started := start_lockstep subtract other cases memory otherMemory
  refine ⟨?_, ?_⟩
  · intro actions
    have locked := Lockstep.performAll flags actions started
    have sameLength := locked.alike.length_eq
    refine ⟨_, _, _, _, rfl, rfl, locked.inStep, sameLength, locked.alike, ?_⟩
    rw [calls_eq_length, calls_eq_length]
    exact sameLength
  · have drains := drains_drain subtract (start cases memory)
    obtain ⟨twins, twinFinal, twinDrains, alike, _⟩ := Lockstep.of_drains flags drains started
    rw [Suite.checkWith_of_drains drains, Suite.checkWith_of_drains twinDrains,
      Suite.calls_of_drains drains, Suite.calls_of_drains twinDrains]
    refine ⟨?_, alike.length_eq⟩
    rcases Verdict.find?_of_alike alike with
      ⟨noFailure, noTwin⟩ | ⟨verdict, twin, failed, twinFailed, same⟩
    · exact Or.inl ⟨by rw [noFailure], by rw [noTwin]⟩
    · exact Or.inr ⟨verdict, twin, by rw [failed], by rw [twinFailed], same⟩

/-- Both scripts get the flag of the second of three cases wrong.  No word of theirs is the same,
nor the flag that they hold ready for the third case, about which they are not asked. -/
theorem scripts_fail_alike :
    Subtractor.scripted.SameFlags Subtractor.scripted
        [⟨1, 1, false⟩, ⟨2, 1, false⟩, ⟨3, 1, false⟩] [⟨5, false⟩, ⟨6, true⟩, ⟨7, true⟩]
        [⟨0, false⟩, ⟨1, true⟩, ⟨2, false⟩] ∧
      ∃ given twins oracle twin,
        (start [⟨1, 1, false⟩, ⟨2, 1, false⟩, ⟨3, 1, false⟩]
            [⟨5, false⟩, ⟨6, true⟩, ⟨7, true⟩]).performAll Subtractor.scripted
            (List.replicate 3 .step) = (given, oracle) ∧
          (start [⟨1, 1, false⟩, ⟨2, 1, false⟩, ⟨3, 1, false⟩]
            [⟨0, false⟩, ⟨1, true⟩, ⟨2, false⟩]).performAll Subtractor.scripted
            (List.replicate 3 .step) = (twins, twin) ∧
          oracle.InStep twin ∧ List.Forall₂ Verdict.Alike given twins ∧ given.length = 2 ∧
          given ≠ twins := by
  have flags : Subtractor.scripted.SameFlags Subtractor.scripted
      [⟨1, 1, false⟩, ⟨2, 1, false⟩, ⟨3, 1, false⟩] [⟨5, false⟩, ⟨6, true⟩, ⟨7, true⟩]
      [⟨0, false⟩, ⟨1, true⟩, ⟨2, false⟩] := by
    intro call called verdict twin found twinFound
    have counted : Suite.calls Subtractor.scripted [⟨1, 1, false⟩, ⟨2, 1, false⟩, ⟨3, 1, false⟩]
        [⟨5, false⟩, ⟨6, true⟩, ⟨7, true⟩] = 2 := by
      rw [Suite.calls, Suite.checkWith_eq_search]
      rfl
    rw [counted] at called
    rcases (by omega : call = 0 ∨ call = 1) with rfl | rfl
    · cases found; cases twinFound; rfl
    · cases found; cases twinFound; rfl
  obtain ⟨given, twins, oracle, twin, performed, twinPerformed, inStep, _, alike, _⟩ :=
    (flags_alone_decide Subtractor.scripted Subtractor.scripted _ _ _ flags).1
      (List.replicate 3 .step)
  have gave : _ = given := congrArg Prod.fst performed
  have twinGave : _ = twins := congrArg Prod.fst twinPerformed
  refine ⟨flags, given, twins, oracle, twin, performed, twinPerformed, inStep, alike, ?_, ?_⟩
  · rw [← gave]
    decide
  · rw [← gave, ← twinGave]
    decide

end Oracle

end SignedDifference
