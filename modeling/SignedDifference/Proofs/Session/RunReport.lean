import SignedDifference.Proofs.Oracle.Expectations
import SignedDifference.Session.SuiteReport

/-!
# Reports on runs

A method that is drained over a suite gives its verdicts on all cases if they are right, and on
those up to the first that is wrong otherwise (`drains_of_right`, `drains_of_firstWrong`).  So the
report on such a run has a numbered line with a mark for each case that a check evaluates, and says
at the end what the check tells.  The oracle is always done by then (`runReport_tells_check`).
-/

set_option autoImplicit false

namespace SignedDifference

def Method.verdictOn (method : Method) (index : Nat) (case : Case) : Verdict :=
  ⟨index, case, method.subtract case.a case.b⟩

theorem Method.passed_verdictOn (method : Method) (index : Nat) (case : Case) :
    (method.verdictOn index case).passed = decide case.IsRight := by
  rw [Bool.eq_iff_iff, Verdict.passed, decide_eq_true_iff, Case.isRight_iff method]
  exact beq_iff_eq

variable {cases : List Case} {method : Method} {index : Nat} {case : Case}

/-! ## Runs with a method -/

namespace Oracle

theorem Invariant.given_eq_mapIdx {σ : Type} {memory : σ} {given : List Verdict}
    {oracle : Oracle σ} (kept : Invariant (Subtractor.ofMethod method) cases memory given oracle) :
    given = (cases.take oracle.next).mapIdx method.verdictOn := by
  have length := kept.given_length
  apply List.ext_getElem?
  intro index
  rw [List.getElem?_mapIdx]
  by_cases before : index < oracle.next
  · rw [kept.given_eq index before, List.getElem?_take_of_lt before]
    rfl
  · have short : (cases.take oracle.next).length ≤ index := by
      rw [List.length_take]
      omega
    rw [List.getElem?_eq_none (by omega), List.getElem?_eq_none short, Option.map_none]

theorem drains_of_right (method : Method) (right : ∀ case ∈ cases, case.IsRight) :
    ∃ final, (start cases ()).Drains (Subtractor.ofMethod method)
        (cases.mapIdx method.verdictOn) final ∧
      final.state = .done .success := by
  have drains := drains_drain (Subtractor.ofMethod method) (start cases ())
  have kept := Invariant.of_drained drains
  obtain ⟨status, isDone⟩ := drains.done
  cases status with
  | success =>
      rw [kept.given_eq_mapIdx, (kept.succeeded isDone).1, List.take_length] at drains
      exact ⟨_, drains, isDone⟩
  | failure =>
      obtain ⟨case, present, wrong⟩ :=
        Subtractor.mismatchesAt_ofMethod_iff.mp (kept.failed isDone).2.mismatches
      exact absurd (right case (List.mem_of_getElem? present)) wrong

theorem drains_of_firstWrong (method : Method) (first : Case.FirstWrong cases index case) :
    ∃ final, (start cases ()).Drains (Subtractor.ofMethod method)
        ((cases.take index).mapIdx method.verdictOn ++ [method.verdictOn index case]) final ∧
      final.state = .done .failure := by
  have drains := drains_drain (Subtractor.ofMethod method) (start cases ())
  have kept := Invariant.of_drained drains
  obtain ⟨status, isDone⟩ := drains.done
  cases status with
  | success =>
      have mismatches : (Subtractor.ofMethod method).MismatchesAt cases () index :=
        Subtractor.mismatchesAt_ofMethod_iff.mpr ⟨case, first.present, first.wrong⟩
      exact absurd mismatches (kept.not_mismatchesAt isDone index)
  | failure =>
      obtain ⟨positive, firstMismatch⟩ := kept.failed isDone
      obtain ⟨other, present, _⟩ :=
        Subtractor.mismatchesAt_ofMethod_iff.mp firstMismatch.mismatches
      have position := first.unique (firstMismatch.firstWrong present)
      have next : ((start cases ()).drain (Subtractor.ofMethod method)).2.next = index + 1 := by
        omega
      have within := (List.getElem?_eq_some_iff.mp first.present).1
      rw [kept.given_eq_mapIdx, next, List.take_add_one, first.present, Option.toList_some,
        List.mapIdx_append, List.length_take_of_le (by omega), List.mapIdx_singleton,
        Nat.zero_add] at drains
      exact ⟨_, drains, isDone⟩

end Oracle

namespace Session

/-- The line on the case at a position: a mark, its number from one, its text and the outcome. -/
def lineOn (method : Method) (passed : Bool) (index : Nat) (case : Case) : Entry :=
  .line
    ([.plain "  [", if passed then .green "pass" else .red "FAIL",
      .plain ("] " ++ ("#" ++ Text.alignLeft 2 (Numeral.decimal (index + 1 : Nat))) ++ " "),
      .magenta case.display, .plain "  got "] ++
      outcomeSegments (method.subtract case.a case.b))

def passedLine (count : Nat) : Entry :=
  .line
    [.cyan "Done:", .plain " ", .yellow (Numeral.decimal count),
     .plain " cases passed (exit code ", .blue "0", .plain ")"]

def mismatchLine : Entry :=
  .line
    [.cyan "Done:", .plain " ", .red "mismatch, remaining cases skipped", .plain " (exit code ",
     .blue "255", .plain ")"]

def stillRunning : Entry :=
  .failure [.plain "Oracle stopped while still running"]

/-! ## Lines of a report -/

theorem verdictEntry_verdictOn (method : Method) (index : Nat) (case : Case) :
    verdictEntry (method.verdictOn index case) =
      lineOn method (decide case.IsRight) index case := by
  rw [verdictEntry, Method.passed_verdictOn]
  rfl

theorem map_verdictEntry (method : Method) (right : ∀ case ∈ cases, case.IsRight) :
    (cases.mapIdx method.verdictOn).map verdictEntry = cases.mapIdx (lineOn method true) := by
  apply List.ext_getElem?
  intro index
  rw [List.getElem?_map, List.getElem?_mapIdx, List.getElem?_mapIdx, Option.map_map]
  cases present : cases[index]? with
  | none => rfl
  | some case =>
      have isRight := right case (List.mem_of_getElem? present)
      rw [Option.map_some, Option.map_some, Function.comp_apply, verdictEntry_verdictOn,
        decide_eq_true isRight]

theorem closingEntry_success (count : Nat) :
    closingEntry count (.done .success) = passedLine count := by
  have code : Numeral.decimal ExitStatus.success.code.toNat = "0" := by
    simp [ExitStatus.code, Numeral.decimal, Numeral.digits, Numeral.digitChar]
  rw [closingEntry, code]
  rfl

theorem closingEntry_failure (count : Nat) :
    closingEntry count (.done .failure) = mismatchLine := by
  have code : Numeral.decimal ExitStatus.failure.code.toNat = "255" := by
    simp [ExitStatus.code, Numeral.decimal, Numeral.digits, Numeral.digitChar]
  rw [closingEntry, code]
  rfl

theorem runReport_of_drains {verdicts : List Verdict} {final : Oracle Unit}
    (drains : (Oracle.start cases ()).Drains (Subtractor.ofMethod method) verdicts final) :
    runReport cases method =
      verdicts.map verdictEntry ++ [closingEntry cases.length final.state] := by
  rw [runReport, drains.drain_eq]

theorem runReport_of_right (method : Method) (right : ∀ case ∈ cases, case.IsRight) :
    runReport cases method = cases.mapIdx (lineOn method true) ++ [passedLine cases.length] := by
  obtain ⟨final, drains, isDone⟩ := Oracle.drains_of_right method right
  rw [runReport_of_drains drains, map_verdictEntry method right, isDone, closingEntry_success]

theorem runReport_of_firstWrong (method : Method) (first : Case.FirstWrong cases index case) :
    runReport cases method =
      (cases.take index).mapIdx (lineOn method true) ++
        [lineOn method false index case, mismatchLine] := by
  obtain ⟨final, drains, isDone⟩ := Oracle.drains_of_firstWrong method first
  rw [runReport_of_drains drains, List.map_append, map_verdictEntry method first.earlier,
    List.map_singleton, verdictEntry_verdictOn, decide_eq_false first.wrong, isDone,
    closingEntry_failure, List.append_assoc, List.singleton_append]

end Session

end SignedDifference
