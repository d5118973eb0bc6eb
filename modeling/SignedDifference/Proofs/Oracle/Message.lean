import SignedDifference.Oracle

/-!
# Messages tell their verdicts

The message of a mismatch is fixed text around six fields of any length.  Minus signs, blanks and
the word for an overflow occur in fields as well, but no field has the character that stands behind
it, so the first such character ends the field (`eq_of_append_mark`).  Each field is the text of one
value (`Numeral.decimal_inj`, `SuiteError.expectation_inj`, `Outcome.display_inj`), so no two
verdicts have the same message (`SuiteError.message_tells_verdict`).
-/

set_option autoImplicit false

namespace SignedDifference

/-- A text without the mark is told by the first mark behind it. -/
theorem eq_of_append_mark {mark : Char} :
    ∀ {front other back rest : List Char}, mark ∉ front → mark ∉ other →
      front ++ mark :: back = other ++ mark :: rest → front = other ∧ back = rest := by
  intro front
  induction front with
  | nil =>
      intro other back rest _ otherFree same
      cases other with
      | nil => exact ⟨rfl, List.tail_eq_of_cons_eq same⟩
      | cons c later => exact absurd (List.head_eq_of_cons_eq same) (List.ne_of_not_mem_cons otherFree)
  | cons c front ih =>
      intro other back rest free otherFree same
      cases other with
      | nil => exact absurd (List.head_eq_of_cons_eq same).symm (List.ne_of_not_mem_cons free)
      | cons d later =>
          obtain ⟨sameFirst, sameLater⟩ := List.cons.inj same
          obtain ⟨sameFront, sameBack⟩ := ih (List.not_mem_of_not_mem_cons free)
            (List.not_mem_of_not_mem_cons otherFree) sameLater
          exact ⟨by rw [sameFirst, sameFront], sameBack⟩

/-! ## Fields -/

theorem blank_not_mem_decimal (n : Int) : ' ' ∉ (Numeral.decimal n).toList :=
  Numeral.not_mem_decimal (by decide) (by decide) n

theorem eq_of_decimal_toInt {a b : Int64}
    (same : (Numeral.decimal a.toInt).toList = (Numeral.decimal b.toInt).toList) : a = b :=
  Int64.toInt_inj.mp (Numeral.decimal_inj (String.toList_injective same))

theorem SuiteError.comma_not_mem_expectation (overflow : Bool) :
    ',' ∉ (expectation overflow).toList := by
  cases overflow <;> decide

theorem SuiteError.expectation_inj {overflow other : Bool}
    (same : (expectation overflow).toList = (expectation other).toList) : overflow = other := by
  cases overflow <;> cases other
  · rfl
  · exact absurd same (by decide)
  · exact absurd same (by decide)
  · rfl

theorem Outcome.blank_mem_display_iff (outcome : Outcome) :
    ' ' ∈ outcome.display.toList ↔ outcome.overflowed = true := by
  rw [display]
  split
  · rename_i overflowed
    rw [String.toList_append]
    exact iff_of_true (List.mem_append_right _ (by decide)) overflowed
  · rename_i kept
    exact iff_of_false (blank_not_mem_decimal _) kept

theorem Outcome.display_inj {outcome other : Outcome}
    (same : outcome.display.toList = other.display.toList) : outcome = other := by
  have flag : outcome.overflowed = other.overflowed := by
    rw [Bool.eq_iff_iff, ← blank_mem_display_iff, same, blank_mem_display_iff]
  have word : outcome.wrapped = other.wrapped := by
    rw [display, display, flag] at same
    split at same
    · rw [String.toList_append, String.toList_append] at same
      exact eq_of_decimal_toInt (List.append_cancel_right same)
    · exact eq_of_decimal_toInt same
  calc outcome
      = ⟨outcome.wrapped, outcome.overflowed⟩ := rfl
    _ = ⟨other.wrapped, other.overflowed⟩ := by rw [word, flag]

/-! ## Messages -/

namespace SuiteError

/-- The message of a mismatch with any number for its case. -/
def numbered (number : Nat) (verdict : Verdict) : String :=
  "Case #" ++ Numeral.decimal number ++ " (" ++
    Numeral.decimal verdict.case.a.toInt ++ " - " ++
    Numeral.decimal verdict.case.b.toInt ++ "): expected " ++
    expectation verdict.case.expectOverflow ++ ", but got " ++ verdict.observed.display

theorem message_eq_numbered (verdict : Verdict) :
    (overflowMismatch verdict).message = numbered (verdict.index + 1) verdict :=
  rfl

theorem toList_numbered (number : Nat) (verdict : Verdict) :
    (numbered number verdict).toList =
      "Case #".toList ++ ((Numeral.decimal number).toList ++ ' ' ::
        ('(' :: ((Numeral.decimal verdict.case.a.toInt).toList ++ ' ' ::
          ("- ".toList ++ ((Numeral.decimal verdict.case.b.toInt).toList ++ ')' ::
            (": expected ".toList ++ ((expectation verdict.case.expectOverflow).toList ++ ',' ::
              (" but got ".toList ++ verdict.observed.display.toList)))))))) := by
  unfold numbered
  simp only [String.toList_append]
  simp only [List.append_assoc]
  rfl

theorem numbered_inj {number other : Nat} {first second : Verdict}
    (same : numbered number first = numbered other second) :
    number = other ∧ first.case = second.case ∧ first.observed = second.observed := by
  have texts := congrArg String.toList same
  rw [toList_numbered, toList_numbered] at texts
  obtain ⟨numbers, texts⟩ := eq_of_append_mark (blank_not_mem_decimal _) (blank_not_mem_decimal _)
    (List.append_cancel_left texts)
  obtain ⟨minuends, texts⟩ := eq_of_append_mark (blank_not_mem_decimal _) (blank_not_mem_decimal _)
    (List.tail_eq_of_cons_eq texts)
  have noBracket := Numeral.not_mem_decimal (c := ')') (by decide) (by decide)
  obtain ⟨subtrahends, texts⟩ := eq_of_append_mark (noBracket _) (noBracket _)
    (List.append_cancel_left texts)
  obtain ⟨expectations, texts⟩ := eq_of_append_mark (comma_not_mem_expectation _)
    (comma_not_mem_expectation _) (List.append_cancel_left texts)
  have observed := Outcome.display_inj (List.append_cancel_left texts)
  have a := eq_of_decimal_toInt minuends
  have b := eq_of_decimal_toInt subtrahends
  have overflow := expectation_inj expectations
  refine ⟨?_, ?_, observed⟩
  · exact Int.ofNat_inj.mp (Numeral.decimal_inj (String.toList_injective numbers))
  · calc first.case
        = ⟨first.case.a, first.case.b, first.case.expectOverflow⟩ := rfl
      _ = ⟨second.case.a, second.case.b, second.case.expectOverflow⟩ := by rw [a, b, overflow]

theorem eq_of_numbered {number other : Nat} {first second : Verdict}
    (counted : number = other → first.index = second.index)
    (same : numbered number first = numbered other second) : first = second := by
  obtain ⟨numbers, cases, outcomes⟩ := numbered_inj same
  have indices := counted numbers
  calc first
      = ⟨first.index, first.case, first.observed⟩ := rfl
    _ = ⟨second.index, second.case, second.observed⟩ := by rw [indices, cases, outcomes]

/-- Verdicts with the same message are the same, passed or not.  The numbers tell the indices apart
also where they are counted in 64 bits and start over at zero behind the last one. -/
theorem message_tells_verdict (first second : Verdict) :
    ((overflowMismatch first).message = (overflowMismatch second).message → first = second) ∧
      (first.index < 0x10000000000000000 → second.index < 0x10000000000000000 →
        numbered ((first.index + 1) % 0x10000000000000000) first =
            numbered ((second.index + 1) % 0x10000000000000000) second →
          first = second) := by
  constructor
  · intro same
    rw [message_eq_numbered, message_eq_numbered] at same
    exact eq_of_numbered Nat.succ.inj same
  · intro low lowOther same
    refine eq_of_numbered ?_ same
    intro counted
    omega

/-- The word for an overflow stands in the expectation and in the outcome. -/
theorem verdict_of_first_message :
    ∃ verdict,
      ((Oracle.start Case.boundary ()).step (Subtractor.stuckFlag true)).1 = some verdict ∧
        (overflowMismatch verdict).message =
          "Case #1 (0 - 0): expected no overflow, but got 0 (overflow)" ∧
        verdict = ⟨0, ⟨0, 0, false⟩, ⟨0, true⟩⟩ := by
  have told : (overflowMismatch ⟨0, ⟨0, 0, false⟩, ⟨0, true⟩⟩).message =
      "Case #1 (0 - 0): expected no overflow, but got 0 (overflow)" := by
    have zero : Numeral.decimal (0 : Nat) = "0" := Numeral.decimal_of_lt (by decide)
    have one : Numeral.decimal (1 : Nat) = "1" := Numeral.decimal_of_lt (by decide)
    change "Case #" ++ Numeral.decimal (1 : Nat) ++ " (" ++ Numeral.decimal (0 : Nat) ++ " - " ++
      Numeral.decimal (0 : Nat) ++ "): expected " ++ "no overflow" ++ ", but got " ++
        (Numeral.decimal (0 : Nat) ++ " (overflow)") = _
    rw [zero, one]
    rfl
  refine ⟨_, rfl, told, ?_⟩
  exact (message_tells_verdict _ _).1 rfl

end SuiteError

end SignedDifference
