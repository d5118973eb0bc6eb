import SignedDifference.Proofs.Oracle.SuiteCheck

/-!
# Suites put together

A check is a search through the cases for the first mismatch (`checkWith_eq_search`).  A search
through two lists goes through the first, and then through the second if nothing was found, at the
position and with the memory at which the first ended (`searchFrom_append`).  So checks compose: the
first failure stands, and behind a success the second list is checked as if it stood alone, with its
positions moved (`check_of_append`).
-/

set_option autoImplicit false

namespace SignedDifference

variable {σ : Type}

namespace Verdict

/-- The verdict on the same case when `offset` more cases stand before it. -/
def behind (offset : Nat) (verdict : Verdict) : Verdict :=
  { verdict with index := offset + verdict.index }

end Verdict

namespace Subtractor

/-- The first mismatch among the cases of a suite from a position on, and the memory of the
subtractor after it, or after all of them. -/
def searchFrom (subtract : Subtractor σ) : Nat → List Case → σ → Option Verdict × σ
  | _, [], memory => (none, memory)
  | position, case :: rest, memory =>
      let (observed, left) := subtract case.a case.b memory
      let verdict := Verdict.mk position case observed
      if verdict.passed then searchFrom subtract (position + 1) rest left else (some verdict, left)

variable {subtract : Subtractor σ} {case : Case} {rest : List Case} {position : Nat} {memory : σ}

theorem searchFrom_of_passed
    (passed : (Verdict.mk position case (subtract case.a case.b memory).1).passed = true) :
    subtract.searchFrom position (case :: rest) memory =
      subtract.searchFrom (position + 1) rest (subtract case.a case.b memory).2 := by
  rw [searchFrom]
  exact if_pos passed

theorem searchFrom_of_failed
    (failed : (Verdict.mk position case (subtract case.a case.b memory).1).passed = false) :
    subtract.searchFrom position (case :: rest) memory =
      (some ⟨position, case, (subtract case.a case.b memory).1⟩,
        (subtract case.a case.b memory).2) := by
  rw [searchFrom]
  exact if_neg (ne_true_of_eq_false failed)

theorem searchFrom_append (subtract : Subtractor σ) (first second : List Case) :
    ∀ (position : Nat) (memory : σ),
      subtract.searchFrom position (first ++ second) memory =
        match subtract.searchFrom position first memory with
        | (some verdict, left) => (some verdict, left)
        | (none, left) => subtract.searchFrom (position + first.length) second left := by
  induction first with
  | nil => intro position memory; rfl
  | cons case rest ih =>
      intro position memory
      rw [List.cons_append, List.length_cons]
      cases passed : (Verdict.mk position case (subtract case.a case.b memory).1).passed with
      | true =>
          rw [searchFrom_of_passed passed, searchFrom_of_passed passed, ih, Nat.add_assoc,
            Nat.add_comm 1]
      | false => rw [searchFrom_of_failed passed, searchFrom_of_failed passed]

theorem searchFrom_add (subtract : Subtractor σ) (offset : Nat) (cases : List Case) :
    ∀ (position : Nat) (memory : σ),
      subtract.searchFrom (offset + position) cases memory =
        ((subtract.searchFrom position cases memory).1.map (Verdict.behind offset),
          (subtract.searchFrom position cases memory).2) := by
  induction cases with
  | nil => intro position memory; rfl
  | cons case rest ih =>
      intro position memory
      cases passed : (Verdict.mk position case (subtract case.a case.b memory).1).passed with
      | true =>
          have passedBehind : (Verdict.mk (offset + position) case
              (subtract case.a case.b memory).1).passed = true := passed
          rw [searchFrom_of_passed passed, searchFrom_of_passed passedBehind, Nat.add_assoc, ih]
      | false =>
          have failedBehind : (Verdict.mk (offset + position) case
              (subtract case.a case.b memory).1).passed = false := passed
          rw [searchFrom_of_failed passed, searchFrom_of_failed failedBehind]
          rfl

theorem memory_of_searchFrom (subtract : Subtractor σ) (cases : List Case) :
    ∀ {position : Nat} {memory left : σ},
      subtract.searchFrom position cases memory = (none, left) →
        left = subtract.memoryAfter cases memory := by
  induction cases with
  | nil =>
      intro position memory left found
      exact (congrArg Prod.snd found).symm
  | cons case rest ih =>
      intro position memory left found
      cases passed : (Verdict.mk position case (subtract case.a case.b memory).1).passed with
      | true =>
          rw [searchFrom_of_passed passed] at found
          exact ih found
      | false =>
          rw [searchFrom_of_failed passed] at found
          simp at found

end Subtractor

namespace Oracle

/-- An oracle is done with its last case already.  A search does not see it: there is nothing more
to find. -/
theorem firstMismatch_stateAfter (subtract : Subtractor σ) {verdict : Verdict}
    (passed : verdict.passed = true) (rest : List Case) (next : Nat) (memory : σ) :
    (firstMismatch subtract ⟨rest, next, stateAfter verdict rest, memory⟩).1 =
        (firstMismatch subtract ⟨rest, next, .running, memory⟩).1 ∧
      (firstMismatch subtract ⟨rest, next, stateAfter verdict rest, memory⟩).2.memory =
        (firstMismatch subtract ⟨rest, next, .running, memory⟩).2.memory := by
  cases rest with
  | nil =>
      rw [stateAfter_eq_success_iff.mpr ⟨passed, rfl⟩, firstMismatch_of_none (step_of_done rfl),
        firstMismatch_of_none (step_of_missing subtract rfl rfl)]
      exact ⟨rfl, rfl⟩
  | cons case rest =>
      rw [stateAfter_eq_running_iff.mpr ⟨passed, List.cons_ne_nil case rest⟩]
      exact ⟨rfl, rfl⟩

theorem firstMismatch_eq_search (subtract : Subtractor σ) (cases : List Case) :
    ∀ (next : Nat) (memory : σ),
      ((firstMismatch subtract ⟨cases, next, .running, memory⟩).1,
          (firstMismatch subtract ⟨cases, next, .running, memory⟩).2.memory) =
        subtract.searchFrom next cases memory := by
  induction cases with
  | nil =>
      intro next memory
      rw [firstMismatch_of_none (step_of_missing subtract rfl rfl)]
      rfl
  | cons case rest ih =>
      intro next memory
      have running : (Oracle.mk (case :: rest) next .running memory).state = .running := rfl
      obtain ⟨verdict, isVerdict, stepped⟩ := step_of_next subtract running rfl
      rw [firstMismatch_of_some stepped]
      cases passed : verdict.passed with
      | true =>
          obtain ⟨sameVerdict, sameMemory⟩ := firstMismatch_stateAfter subtract passed rest
            (next + 1) (subtract case.a case.b memory).2
          rw [Subtractor.searchFrom_of_passed (isVerdict ▸ passed), ← ih, if_pos rfl, sameVerdict,
            sameMemory]
      | false =>
          rw [Subtractor.searchFrom_of_failed (isVerdict ▸ passed), if_neg (by decide), isVerdict]

end Oracle

namespace Suite

theorem checkWith_eq_search (subtract : Subtractor σ) (cases : List Case) (memory : σ) :
    checkWith subtract cases memory =
      match subtract.searchFrom 0 cases memory with
      | (some verdict, left) => (.error (.overflowMismatch verdict), left)
      | (none, left) => (.ok cases.length, left) := by
  rw [← Oracle.firstMismatch_eq_search, checkWith, Oracle.start]
  cases Oracle.firstMismatch subtract ⟨cases, 0, .running, memory⟩ with
  | mk verdict? oracle => cases verdict? <;> rfl

/-- The answer of a check when `offset` more cases stand before those that it was about. -/
def behind (offset : Nat) : Except SuiteError Nat → Except SuiteError Nat
  | .ok count => .ok (offset + count)
  | .error (.overflowMismatch verdict) => .error (.overflowMismatch (verdict.behind offset))

theorem checkWith_append (subtract : Subtractor σ) (first second : List Case) (memory : σ) :
    checkWith subtract (first ++ second) memory =
      match checkWith subtract first memory with
      | (.error fault, left) => (.error fault, left)
      | (.ok _, left) =>
          (behind first.length (checkWith subtract second left).1,
            (checkWith subtract second left).2) := by
  rw [checkWith_eq_search, subtract.searchFrom_append, checkWith_eq_search subtract first]
  cases subtract.searchFrom 0 first memory with
  | mk verdict? left =>
      cases verdict? with
      | some verdict => rfl
      | none =>
          have moved := subtract.searchFrom_add first.length second 0 left
          simp only [Nat.add_zero] at moved
          simp only [Nat.zero_add, moved, checkWith_eq_search subtract second]
          cases subtract.searchFrom 0 second left with
          | mk found after =>
              cases found with
              | none => simp only [Option.map_none, List.length_append, behind]
              | some verdict => rfl

theorem checkWith_counted (subtract : Subtractor σ) (cases : List Case) (memory : σ)
    (count : Nat) :
    checkWith subtract.counted cases (memory, count) =
      ((checkWith subtract cases memory).1,
        ((checkWith subtract cases memory).2, count + calls subtract cases memory)) := by
  have drains := Oracle.drains_drain subtract (Oracle.start cases memory)
  have counted : (Oracle.start cases (memory, count)).Drains subtract.counted _ _ :=
    drains.counted count
  rw [checkWith_of_drains counted, checkWith_of_drains drains, calls_of_drains drains]
  rfl

theorem calls_append (subtract : Subtractor σ) (first second : List Case) (memory : σ) :
    calls subtract (first ++ second) memory =
      match checkWith subtract first memory with
      | (.error _, _) => calls subtract first memory
      | (.ok _, left) => calls subtract first memory + calls subtract second left := by
  rw [calls, checkWith_append, checkWith_counted, Nat.zero_add]
  cases checkWith subtract first memory with
  | mk result left =>
      cases result with
      | error fault => rfl
      | ok count => simp only [checkWith_counted]

theorem of_checkWith_ok {subtract : Subtractor σ} {cases : List Case} {memory left : σ}
    {count : Nat} (checked : checkWith subtract cases memory = (.ok count, left)) :
    count = cases.length ∧ left = subtract.memoryAfter cases memory := by
  rw [checkWith_eq_search] at checked
  cases found : subtract.searchFrom 0 cases memory with
  | mk verdict? after =>
      rw [found] at checked
      cases verdict? with
      | some verdict => simp at checked
      | none =>
          obtain ⟨rfl, rfl⟩ : cases.length = count ∧ after = left := by simpa using checked
          exact ⟨rfl, subtract.memory_of_searchFrom cases found⟩

/-- Checks compose.  If the first list fails, the two together fail in the same way, after as many
calls.  If it succeeds, the answer about the two is that about the second list, by the subtractor as
the first left it, with the positions moved; the calls add up. -/
theorem check_of_append (subtract : Subtractor σ) (first second : List Case) (memory : σ) :
    (∀ verdict left,
      checkWith subtract first memory = (.error (.overflowMismatch verdict), left) →
        checkWith subtract (first ++ second) memory =
            (.error (.overflowMismatch verdict), left) ∧
          calls subtract (first ++ second) memory = calls subtract first memory) ∧
      ∀ count left, checkWith subtract first memory = (.ok count, left) →
        count = first.length ∧ left = subtract.memoryAfter first memory ∧
          checkWith subtract (first ++ second) memory =
            (behind first.length (checkWith subtract second left).1,
              (checkWith subtract second left).2) ∧
          calls subtract (first ++ second) memory =
            calls subtract first memory + calls subtract second left := by
  constructor
  · intro verdict left checked
    constructor
    · rw [checkWith_append, checked]
    · rw [calls_append, checked]
  · intro count left checked
    obtain ⟨counted, asked⟩ := of_checkWith_ok checked
    refine ⟨counted, asked, ?_, ?_⟩
    · rw [checkWith_append, checked]
    · rw [calls_append, checked]

/-- The second answer of a script is wrong.  The check goes on from the first case to the second and
stops there, so that a third case is not asked about. -/
theorem mismatch_behind_first_case :
    checkWith Subtractor.scripted [⟨1, 1, false⟩] [⟨0, false⟩, ⟨9, true⟩] = (.ok 1, [⟨9, true⟩]) ∧
      checkWith Subtractor.scripted ([⟨1, 1, false⟩] ++ [⟨2, 1, false⟩])
          [⟨0, false⟩, ⟨9, true⟩] =
        (.error (.overflowMismatch ⟨1, ⟨2, 1, false⟩, ⟨9, true⟩⟩), []) ∧
      checkWith Subtractor.scripted ([⟨1, 1, false⟩] ++ [⟨2, 1, false⟩] ++ [⟨3, 1, true⟩])
          [⟨0, false⟩, ⟨9, true⟩] =
        (.error (.overflowMismatch ⟨1, ⟨2, 1, false⟩, ⟨9, true⟩⟩), []) ∧
      calls Subtractor.scripted ([⟨1, 1, false⟩] ++ [⟨2, 1, false⟩] ++ [⟨3, 1, true⟩])
          [⟨0, false⟩, ⟨9, true⟩] =
        calls Subtractor.scripted [⟨1, 1, false⟩] [⟨0, false⟩, ⟨9, true⟩] +
          calls Subtractor.scripted [⟨2, 1, false⟩] [⟨9, true⟩] := by
  have checkedFirst : checkWith Subtractor.scripted [⟨1, 1, false⟩] [⟨0, false⟩, ⟨9, true⟩] =
      (.ok 1, [⟨9, true⟩]) := by
    rw [checkWith_eq_search]
    rfl
  have checkedSecond : checkWith Subtractor.scripted [⟨2, 1, false⟩] [⟨9, true⟩] =
      (.error (.overflowMismatch ⟨0, ⟨2, 1, false⟩, ⟨9, true⟩⟩), []) := by
    rw [checkWith_eq_search]
    rfl
  obtain ⟨_, _, checkedBoth, callsBoth⟩ :=
    (check_of_append Subtractor.scripted [⟨1, 1, false⟩] [⟨2, 1, false⟩] _).2 1 _ checkedFirst
  rw [checkedSecond] at checkedBoth
  obtain ⟨checkedAll, callsAll⟩ :=
    (check_of_append Subtractor.scripted _ [⟨3, 1, true⟩] _).1 _ _ checkedBoth
  exact ⟨checkedFirst, checkedBoth, checkedAll, callsAll.trans callsBoth⟩

end Suite

end SignedDifference
