import SignedDifference.Subtractor
import SignedDifference.Verdict

/-!
# Answers in order

What a subtractor answers when it is asked about the cases of a suite one after another, each time
with the memory that the earlier calls left.  Nothing here is said through the oracle: these are the
answers that its verdicts are compared with.
-/

set_option autoImplicit false

namespace SignedDifference.Subtractor

variable {σ : Type}

def memoryAfter (subtract : Subtractor σ) (cases : List Case) (memory : σ) : σ :=
  cases.foldl (fun memory case => (subtract case.a case.b memory).2) memory

/-- The verdict on the case at a position, by a subtractor that has been asked about the cases
before it and about nothing else. -/
def verdictAt? (subtract : Subtractor σ) (cases : List Case) (memory : σ) (index : Nat) :
    Option Verdict :=
  cases[index]?.map fun case =>
    ⟨index, case, (subtract case.a case.b (subtract.memoryAfter (cases.take index) memory)).1⟩

def PassesAt (subtract : Subtractor σ) (cases : List Case) (memory : σ) (index : Nat) : Prop :=
  ∃ verdict, subtract.verdictAt? cases memory index = some verdict ∧ verdict.passed = true

def MismatchesAt (subtract : Subtractor σ) (cases : List Case) (memory : σ) (index : Nat) : Prop :=
  ∃ verdict, subtract.verdictAt? cases memory index = some verdict ∧ verdict.passed = false

structure FirstMismatchAt (subtract : Subtractor σ) (cases : List Case) (memory : σ)
    (index : Nat) : Prop where
  mismatches : subtract.MismatchesAt cases memory index
  earlier : ∀ before < index, subtract.PassesAt cases memory before

variable {subtract : Subtractor σ} {cases : List Case} {memory : σ} {index : Nat}

theorem memoryAfter_take_succ {case : Case} (present : cases[index]? = some case) :
    subtract.memoryAfter (cases.take (index + 1)) memory =
      (subtract case.a case.b (subtract.memoryAfter (cases.take index) memory)).2 := by
  rw [List.take_add_one, present, memoryAfter, List.foldl_append]
  rfl

theorem verdictAt?_eq_some {case : Case} (present : cases[index]? = some case) :
    subtract.verdictAt? cases memory index =
      some ⟨index, case,
        (subtract case.a case.b (subtract.memoryAfter (cases.take index) memory)).1⟩ := by
  rw [verdictAt?, present, Option.map_some]

theorem exists_verdictAt? (subtract : Subtractor σ) (memory : σ) (within : index < cases.length) :
    ∃ verdict, subtract.verdictAt? cases memory index = some verdict :=
  ⟨_, verdictAt?_eq_some (List.getElem?_eq_getElem within)⟩

theorem lt_length_of_verdictAt? {verdict : Verdict}
    (found : subtract.verdictAt? cases memory index = some verdict) : index < cases.length := by
  obtain ⟨_, present, _⟩ := Option.map_eq_some_iff.mp found
  exact (List.getElem?_eq_some_iff.mp present).1

theorem index_of_verdictAt? {verdict : Verdict}
    (found : subtract.verdictAt? cases memory index = some verdict) : verdict.index = index := by
  obtain ⟨_, _, rfl⟩ := Option.map_eq_some_iff.mp found
  rfl

theorem case_of_verdictAt? {verdict : Verdict}
    (found : subtract.verdictAt? cases memory index = some verdict) :
    cases[index]? = some verdict.case := by
  obtain ⟨_, present, rfl⟩ := Option.map_eq_some_iff.mp found
  exact present

theorem MismatchesAt.lt_length (mismatches : subtract.MismatchesAt cases memory index) :
    index < cases.length := by
  obtain ⟨_, found, _⟩ := mismatches
  exact lt_length_of_verdictAt? found

theorem PassesAt.not_mismatchesAt (passes : subtract.PassesAt cases memory index) :
    ¬ subtract.MismatchesAt cases memory index := by
  intro mismatches
  obtain ⟨verdict, found, passed⟩ := passes
  obtain ⟨other, foundOther, failed⟩ := mismatches
  obtain rfl := Option.some.inj (found.symm.trans foundOther)
  rw [passed] at failed
  exact absurd failed (by decide)

theorem passesAt_or_mismatchesAt (within : index < cases.length) :
    subtract.PassesAt cases memory index ∨ subtract.MismatchesAt cases memory index := by
  obtain ⟨verdict, found⟩ := exists_verdictAt? subtract memory within
  cases passed : verdict.passed with
  | true => exact Or.inl ⟨verdict, found, passed⟩
  | false => exact Or.inr ⟨verdict, found, passed⟩

theorem FirstMismatchAt.le {other : Nat} (first : subtract.FirstMismatchAt cases memory index)
    (mismatches : subtract.MismatchesAt cases memory other) : index ≤ other := by
  apply Nat.le_of_not_lt
  intro before
  exact (first.earlier other before).not_mismatchesAt mismatches

theorem MismatchesAt.exists_first (mismatches : subtract.MismatchesAt cases memory index) :
    ∃ first, subtract.FirstMismatchAt cases memory first := by
  induction index using Nat.strongRecOn with
  | ind index ih =>
      by_cases earlier : ∃ before < index, subtract.MismatchesAt cases memory before
      · obtain ⟨before, less, mismatchesBefore⟩ := earlier
        exact ih before less mismatchesBefore
      · refine ⟨index, mismatches, ?_⟩
        intro before less
        rcases passesAt_or_mismatchesAt (Nat.lt_trans less mismatches.lt_length) with
          passes | mismatchesBefore
        · exact passes
        · exact absurd ⟨before, less, mismatchesBefore⟩ earlier

theorem FirstMismatchAt.unique {other : Nat} (first : subtract.FirstMismatchAt cases memory index)
    (otherFirst : subtract.FirstMismatchAt cases memory other) : index = other := by
  have low := first.le otherFirst.mismatches
  have high := otherFirst.le first.mismatches
  omega

end SignedDifference.Subtractor
