import SignedDifference.Proofs.Oracle.SuiteCheck
import SignedDifference.Proofs.Outcome.Representation

/-!
# Right expectations

A subtractor whose flags depend on the operands alone passes or fails a case wherever it stands in a
suite (`HasFlag.mismatchesAt_iff`).  The methods pass exactly the cases whose expectation is right of
the exact difference.  So a check succeeds if all expectations are right, and otherwise tells the
first that is not (`check_tells_first_wrong`).
-/

set_option autoImplicit false

namespace SignedDifference

namespace Case

/-- An overflow is expected exactly if the difference lies outside the range. -/
def IsRight (case : Case) : Prop :=
  case.expectOverflow = true ↔ ¬ InRange (case.a.toInt - case.b.toInt)

instance (case : Case) : Decidable case.IsRight :=
  inferInstanceAs (Decidable (_ ↔ _))

theorem isRight_iff {case : Case} (method : Method) :
    case.IsRight ↔ (method.subtract case.a case.b).overflowed = case.expectOverflow := by
  rw [Bool.eq_iff_iff, (method.represents_subtract case.a case.b).overflowed_iff, IsRight,
    exactDifference]
  exact iff_comm

structure FirstWrong (cases : List Case) (index : Nat) (case : Case) : Prop where
  present : cases[index]? = some case
  wrong : ¬ case.IsRight
  earlier : ∀ other ∈ cases.take index, other.IsRight

theorem FirstWrong.le {cases : List Case} {index position : Nat} {case other : Case}
    (first : FirstWrong cases index case) (present : cases[position]? = some other)
    (wrong : ¬ other.IsRight) : index ≤ position := by
  apply Nat.le_of_not_lt
  intro before
  apply wrong
  apply first.earlier
  obtain ⟨within, found⟩ := List.getElem?_eq_some_iff.mp present
  exact List.mem_take_iff_getElem.mpr ⟨position, by omega, found⟩

theorem FirstWrong.unique {cases : List Case} {index position : Nat} {case other : Case}
    (first : FirstWrong cases index case) (otherFirst : FirstWrong cases position other) :
    index = position :=
  Nat.le_antisymm (first.le otherFirst.present otherFirst.wrong)
    (otherFirst.le first.present first.wrong)

end Case

namespace Subtractor

variable {σ : Type} {subtract : Subtractor σ} {flag : Int64 → Int64 → Bool} {cases : List Case}
  {memory : σ} {index : Nat}

/-- The flags depend on the operands alone, whatever the subtractor remembers. -/
def HasFlag (subtract : Subtractor σ) (flag : Int64 → Int64 → Bool) : Prop :=
  ∀ a b memory, (subtract a b memory).1.overflowed = flag a b

theorem hasFlag_ofMethod (method : Method) :
    (ofMethod method : Subtractor σ).HasFlag fun a b => (method.subtract a b).overflowed := by
  intro a b memory
  rfl

theorem hasFlag_stuckZero :
    (stuckZero : Subtractor σ).HasFlag fun a b => (Method.native.subtract a b).overflowed := by
  intro a b memory
  rfl

theorem HasFlag.mismatchesAt_iff (hasFlag : subtract.HasFlag flag) :
    subtract.MismatchesAt cases memory index ↔
      ∃ case, cases[index]? = some case ∧ flag case.a case.b ≠ case.expectOverflow := by
  constructor
  · intro mismatches
    obtain ⟨verdict, found, failed⟩ := mismatches
    obtain ⟨case, present, rfl⟩ := Option.map_eq_some_iff.mp found
    refine ⟨case, present, ?_⟩
    simpa [Verdict.passed, hasFlag case.a case.b] using failed
  · intro wrong
    obtain ⟨case, present, differs⟩ := wrong
    refine ⟨_, verdictAt?_eq_some present, ?_⟩
    simpa [Verdict.passed, hasFlag case.a case.b] using differs

theorem HasFlag.mismatchesAt_iff_wrong {method : Method}
    (hasFlag : subtract.HasFlag fun a b => (method.subtract a b).overflowed) :
    subtract.MismatchesAt cases memory index ↔
      ∃ case, cases[index]? = some case ∧ ¬ case.IsRight := by
  rw [hasFlag.mismatchesAt_iff]
  simp only [Case.isRight_iff method, ne_eq]

theorem mismatchesAt_ofMethod_iff {method : Method} :
    (ofMethod method : Subtractor σ).MismatchesAt cases memory index ↔
      ∃ case, cases[index]? = some case ∧ ¬ case.IsRight :=
  (hasFlag_ofMethod method).mismatchesAt_iff_wrong

theorem FirstMismatchAt.firstWrong {method : Method} {case : Case}
    (first : (ofMethod method : Subtractor σ).FirstMismatchAt cases memory index)
    (present : cases[index]? = some case) : Case.FirstWrong cases index case := by
  obtain ⟨same, presentSame, wrong⟩ := mismatchesAt_ofMethod_iff.mp first.mismatches
  obtain rfl := Option.some.inj (presentSame.symm.trans present)
  refine ⟨present, wrong, ?_⟩
  intro other member
  obtain ⟨before, within, found⟩ := List.mem_take_iff_getElem.mp member
  by_contra wrongBefore
  have passes := first.earlier before (by omega)
  apply passes.not_mismatchesAt
  exact mismatchesAt_ofMethod_iff.mpr
    ⟨other, List.getElem?_eq_some_iff.mpr ⟨by omega, found⟩, wrongBefore⟩

end Subtractor

namespace Suite

variable {σ : Type}

theorem checkWith_ok_iff {subtract : Subtractor σ} {method : Method}
    (hasFlag : subtract.HasFlag fun a b => (method.subtract a b).overflowed) (cases : List Case)
    (memory : σ) :
    (checkWith subtract cases memory).1 = .ok cases.length ↔ ∀ case ∈ cases, case.IsRight := by
  rcases checkWith_ok_or_firstMismatch subtract cases memory with
    ⟨noMismatch, checked, _⟩ | ⟨verdict, failed, first, _⟩
  · refine iff_of_true checked ?_
    intro case member
    obtain ⟨index, present⟩ := List.mem_iff_getElem?.mp member
    by_contra wrong
    exact noMismatch index (hasFlag.mismatchesAt_iff_wrong.mpr ⟨case, present, wrong⟩)
  · obtain ⟨case, present, wrong⟩ := hasFlag.mismatchesAt_iff_wrong.mp first.mismatches
    refine iff_of_false (by simp [failed]) ?_
    intro right
    exact wrong (right case (List.mem_of_getElem? present))

/-- A check never notices that the words are wrong. -/
theorem stuckZero_ok_iff (cases : List Case) (memory : σ) :
    (checkWith Subtractor.stuckZero cases memory).1 = .ok cases.length ↔
      ∀ case ∈ cases, case.IsRight :=
  checkWith_ok_iff Subtractor.hasFlag_stuckZero cases memory

variable {cases : List Case}

theorem checkMethod_ok_iff (method : Method) :
    checkMethod method cases = .ok cases.length ↔ ∀ case ∈ cases, case.IsRight :=
  checkWith_ok_iff (Subtractor.hasFlag_ofMethod method) cases ()

theorem checkMethod_of_right (method : Method) (right : ∀ case ∈ cases, case.IsRight) :
    checkMethod method cases = .ok cases.length :=
  (checkMethod_ok_iff method).mpr right

theorem checkMethod_of_wrong (method : Method) (wrong : ¬ ∀ case ∈ cases, case.IsRight) :
    ∃ verdict, checkMethod method cases = .error (.overflowMismatch verdict) ∧
      Case.FirstWrong cases verdict.index verdict.case ∧
      verdict.observed = method.subtract verdict.case.a verdict.case.b := by
  rcases checkWith_ok_or_firstMismatch (Subtractor.ofMethod method) cases () with
    ⟨_, checked, _⟩ | ⟨verdict, checked, first, found, _⟩
  · exact absurd ((checkMethod_ok_iff method).mp checked) wrong
  · obtain ⟨case, present, isVerdict⟩ := Option.map_eq_some_iff.mp found
    refine ⟨verdict, checked, ?_, ?_⟩
    · rw [← isVerdict] at present first ⊢
      exact first.firstWrong present
    · rw [← isVerdict]
      rfl

theorem checkMethod_eq_check (method : Method) (cases : List Case) :
    checkMethod method cases = check cases := by
  have same : method.subtract = Method.native.subtract := by
    funext a b
    rw [method.subtract_eq, Method.native.subtract_eq]
  rw [check, checkMethod, checkMethod, Subtractor.ofMethod, same]
  rfl

/-- A check with any method succeeds if and only if every expectation is right of the exact
difference; otherwise it gives the right outcome of the first case that expects another one. -/
theorem check_tells_first_wrong (cases : List Case) :
    (check cases = .ok cases.length ↔ ∀ case ∈ cases, case.IsRight) ∧
      ((∀ case ∈ cases, case.IsRight) → run cases = .success ∧ (run cases).code = 0) ∧
      ((¬ ∀ case ∈ cases, case.IsRight) →
        (∃ verdict, check cases = .error (.overflowMismatch verdict) ∧
          Case.FirstWrong cases verdict.index verdict.case ∧
          verdict.observed.Represents (verdict.case.a.toInt - verdict.case.b.toInt)) ∧
        run cases = .failure ∧ (run cases).code = 255) ∧
      ∀ method, checkMethod method cases = check cases := by
  refine ⟨?_, ?_, ?_, fun method => checkMethod_eq_check method cases⟩
  · exact checkMethod_ok_iff .native
  · intro right
    have success : run cases = .success := by
      rw [run, check, checkMethod_of_right .native right]
      rfl
    exact ⟨success, by rw [success]; rfl⟩
  · intro wrong
    obtain ⟨verdict, failed, first, observed⟩ := checkMethod_of_wrong .native wrong
    have failure : run cases = .failure := by
      rw [run, check, failed]
      rfl
    refine ⟨⟨verdict, failed, first, ?_⟩, failure, by rw [failure]; rfl⟩
    rw [observed]
    exact Method.native.represents_subtract verdict.case.a verdict.case.b

/-- The tenth expectation of the boundary suite is flipped, and the check fails there. -/
theorem check_tells_flipped_case :
    ∃ verdict, check (Case.flipAt Case.boundary [9]) = .error (.overflowMismatch verdict) ∧
      verdict.index = 9 ∧ (run (Case.flipAt Case.boundary [9])).code = 255 := by
  have isFirst : Case.FirstWrong (Case.flipAt Case.boundary [9]) 9 ⟨Int64.maxValue, -1, false⟩ :=
    ⟨by decide, by decide, by decide⟩
  have wrong : ¬ ∀ case ∈ Case.flipAt Case.boundary [9], case.IsRight := by decide
  obtain ⟨verdict, failed, first, _⟩ :=
    ((check_tells_first_wrong (Case.flipAt Case.boundary [9])).2.2.1 wrong).1
  have code := ((check_tells_first_wrong (Case.flipAt Case.boundary [9])).2.2.1 wrong).2.2
  exact ⟨verdict, failed, first.unique isFirst, code⟩

end Suite

end SignedDifference
