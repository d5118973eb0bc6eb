import Mathlib.Algebra.Ring.Parity
import Mathlib.Order.Bounds.Basic
import SignedDifference.Proofs.Oracle.Expectations

/-!
# Flipped expectations

Flipping the expectations at some positions one after another leaves those flipped that are named an
odd number of times (`getElem?_flipAt`).  In a suite that was accepted these are the mismatches
(`HasFlag.mismatchesAt_flipAt`), so that a check stops at the least of them
(`flips_fail_at_least_odd`).
-/

set_option autoImplicit false

namespace SignedDifference

namespace Case

theorem flipped_flipped (case : Case) : case.flipped.flipped = case := by
  rw [flipped, flipped, Bool.not_not]

theorem length_flipAt (positions : List Nat) :
    ∀ cases : List Case, (flipAt cases positions).length = cases.length := by
  induction positions with
  | nil => intro cases; rfl
  | cons position later ih =>
      intro cases
      exact (ih (cases.modify position flipped)).trans (List.length_modify flipped cases position)

/-- Of the flips at a position only the parity matters. -/
theorem getElem?_flipAt (index : Nat) (positions : List Nat) :
    ∀ cases : List Case,
      (flipAt cases positions)[index]? =
        cases[index]?.map fun case =>
          if Odd (positions.count index) then case.flipped else case := by
  induction positions with
  | nil => intro cases; simp [flipAt]
  | cons position later ih =>
      intro cases
      have first : flipAt cases (position :: later) =
          flipAt (cases.modify position flipped) later := rfl
      rw [first, ih, List.getElem?_modify, List.count_cons]
      cases cases[index]? with
      | none => rfl
      | some case =>
          by_cases here : position = index
          · by_cases odd : Odd (later.count index)
            · simp [here, odd, Nat.odd_add_one, flipped_flipped]
            · simp [here, odd, Nat.odd_add_one]
          · simp [here]

end Case

variable {σ : Type} {subtract : Subtractor σ} {flag : Int64 → Int64 → Bool} {cases : List Case}
  {positions : List Nat} {memory again : σ} {index : Nat}

namespace Subtractor

theorem HasFlag.expectOverflow_eq (hasFlag : subtract.HasFlag flag)
    (accepted : ∀ index, ¬ subtract.MismatchesAt cases memory index) {case : Case}
    (present : cases[index]? = some case) : case.expectOverflow = flag case.a case.b := by
  by_contra differs
  exact accepted index (hasFlag.mismatchesAt_iff.mpr ⟨case, present, Ne.symm differs⟩)

theorem HasFlag.mismatchesAt_flipAt (hasFlag : subtract.HasFlag flag)
    (accepted : ∀ index, ¬ subtract.MismatchesAt cases memory index)
    (inRange : ∀ position ∈ positions, position < cases.length) :
    subtract.MismatchesAt (Case.flipAt cases positions) again index ↔
      Odd (positions.count index) := by
  rw [hasFlag.mismatchesAt_iff]
  constructor
  · intro mismatches
    obtain ⟨changed, presentChanged, differs⟩ := mismatches
    rw [Case.getElem?_flipAt, Option.map_eq_some_iff] at presentChanged
    obtain ⟨case, present, rfl⟩ := presentChanged
    by_contra even
    rw [if_neg even, hasFlag.expectOverflow_eq accepted present] at differs
    exact differs rfl
  · intro odd
    have member : index ∈ positions := by
      obtain ⟨half, twice⟩ := odd
      exact List.count_pos_iff.mp (by omega)
    obtain ⟨case, present⟩ : ∃ case, cases[index]? = some case :=
      ⟨_, List.getElem?_eq_getElem (inRange index member)⟩
    refine ⟨case.flipped, ?_, ?_⟩
    · rw [Case.getElem?_flipAt, present, Option.map_some, if_pos odd]
    · have expected := hasFlag.expectOverflow_eq accepted present
      simp [Case.flipped, expected]

end Subtractor

namespace Suite

theorem not_mismatchesAt_of_ok {count : Nat}
    (accepted : (checkWith subtract cases memory).1 = .ok count) :
    ∀ index, ¬ subtract.MismatchesAt cases memory index := by
  rcases checkWith_ok_or_firstMismatch subtract cases memory with
    ⟨noMismatch, _⟩ | ⟨verdict, failed, _⟩
  · exact noMismatch
  · rw [failed] at accepted
    simp at accepted

/-- An accepted suite with expectations flipped, one after another, is accepted if every position
was flipped an even number of times.  Otherwise it fails at the least position flipped an odd number
of times, where the expectation is the opposite one, and no later case is evaluated. -/
theorem flips_fail_at_least_odd (hasFlag : subtract.HasFlag flag) {count : Nat}
    (accepted : (checkWith subtract cases memory).1 = .ok count)
    (inRange : ∀ position ∈ positions, position < cases.length) (again : σ) :
    ((checkWith subtract (Case.flipAt cases positions) again).1 = .ok cases.length ↔
        ∀ position, Even (positions.count position)) ∧
      ((¬ ∀ position, Even (positions.count position)) →
        ∃ verdict case,
          (checkWith subtract (Case.flipAt cases positions) again).1 =
              .error (.overflowMismatch verdict) ∧
            IsLeast {position | Odd (positions.count position)} verdict.index ∧
            cases[verdict.index]? = some case ∧
            verdict.case = ⟨case.a, case.b, !case.expectOverflow⟩ ∧
            calls subtract (Case.flipAt cases positions) again = verdict.index + 1) := by
  have mismatches_iff : ∀ index,
      subtract.MismatchesAt (Case.flipAt cases positions) again index ↔
        Odd (positions.count index) :=
    fun index => hasFlag.mismatchesAt_flipAt (not_mismatchesAt_of_ok accepted) inRange
  rcases checkWith_ok_or_firstMismatch subtract (Case.flipAt cases positions) again with
    ⟨noMismatch, checked, _⟩ | ⟨verdict, failed, first, found, counted, _⟩
  · have even : ∀ position, Even (positions.count position) := by
      intro position
      rw [← Nat.not_odd_iff_even, ← mismatches_iff]
      exact noMismatch position
    rw [Case.length_flipAt] at checked
    exact ⟨iff_of_true checked even, fun odd => absurd even odd⟩
  · have odd := (mismatches_iff verdict.index).mp first.mismatches
    have notEven : ¬ ∀ position, Even (positions.count position) :=
      fun even => Nat.not_even_iff_odd.mpr odd (even verdict.index)
    refine ⟨iff_of_false (by simp [failed]) notEven, fun _ => ?_⟩
    have presentChanged := Subtractor.case_of_verdictAt? found
    rw [Case.getElem?_flipAt, Option.map_eq_some_iff] at presentChanged
    obtain ⟨case, present, isFlipped⟩ := presentChanged
    rw [if_pos odd] at isFlipped
    refine ⟨verdict, case, failed, ⟨odd, ?_⟩, present, isFlipped.symm, counted⟩
    intro position oddPosition
    exact first.le ((mismatches_iff position).mpr oddPosition)

/-- Flipped an odd number of times are the positions five and nine. -/
theorem flips_of_boundary_fail_at_five :
    ∃ verdict,
      (checkWith (Subtractor.ofMethod .native)
          (Case.flipAt Case.boundary [9, 3, 9, 9, 5, 3]) ()).1 =
        .error (.overflowMismatch verdict) ∧
      verdict.index = 5 ∧ verdict.case = ⟨Int64.maxValue, 0, true⟩ ∧
      calls (Subtractor.ofMethod .native) (Case.flipAt Case.boundary [9, 3, 9, 9, 5, 3]) () =
        6 := by
  have accepted : (checkWith (Subtractor.ofMethod .native) Case.boundary ()).1 = .ok 14 :=
    checkMethod_of_right .native (by decide)
  have odd : ¬ ∀ position, Even ([9, 3, 9, 9, 5, 3].count position) := by
    intro even
    exact absurd (even 9) (by decide)
  have least : IsLeast {position | Odd ([9, 3, 9, 9, 5, 3].count position)} 5 := by
    have atFive : Odd ([9, 3, 9, 9, 5, 3].count 5) := by decide
    have noneBefore : ∀ position < 5, ¬ Odd ([9, 3, 9, 9, 5, 3].count position) := by decide
    refine ⟨atFive, ?_⟩
    intro position oddPosition
    by_contra before
    exact noneBefore position (by omega) oddPosition
  obtain ⟨verdict, case, failed, isLeast, present, flipped, counted⟩ :=
    (flips_fail_at_least_odd (Subtractor.hasFlag_ofMethod .native) accepted (by decide) ()).2 odd
  have position := isLeast.unique least
  rw [position] at present counted
  obtain rfl := Option.some.inj present
  exact ⟨verdict, failed, position, flipped, counted⟩

end Suite

end SignedDifference
