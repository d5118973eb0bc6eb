import SignedDifference.Proofs.Reading.Acceptance

/-!
# Displayed texts read back

A literal is displayed in one of its spellings (`Literal.spelledBy_display`).  Any two spellings
around a minus sign are accepted (`parse_of_spellings`), and so is an accepted expression with an
expectation behind it (`parseCase_of_parse`).  So a displayed expression is read as it was, and the
display of an accepted case line is its normal form.
-/

set_option autoImplicit false

namespace SignedDifference

/-! ## Spellings of numbers -/

namespace WrittenLiteral

open Numeral (digits digit?_digitChar digits_ne_nil digits_of_le digits_of_lt value?_digits)

theorem isDecimal_digits (n : Nat) : IsDecimal (digits 10 n) n := by
  induction n using Nat.strongRecOn with
  | ind n ih =>
      by_cases single : n < 10
      · rw [digits_of_lt single]
        exact isDecimal_singleton.mpr (digit?_digitChar (by decide) single)
      · have more : 10 ≤ n := Nat.le_of_not_lt single
        have front := ih (n / 10) (Nat.div_lt_self (by omega) (by decide))
        rw [digits_of_le (by decide) more]
        apply (isDecimal_concat front.1).mpr
        refine ⟨n / 10, n % 10, front, by omega, ?_, by omega⟩
        exact digit?_digitChar (by decide) (Nat.mod_lt n (by decide))

theorem isPattern_digits (n : Nat) : IsPattern (digits 16 n) n :=
  ⟨digits_ne_nil 16 n, value?_digits (by decide) (by decide) n⟩

theorem spelledBy_decimal (n : Int) :
    ∃ negative magnitude, signed negative magnitude = n ∧
      (decimal negative magnitude).SpelledBy (Numeral.decimal n).toList := by
  cases n with
  | ofNat n =>
      refine ⟨false, n, rfl, ?_⟩
      rw [Numeral.decimal, String.toList_ofList]
      exact isDecimal_digits n
  | negSucc n =>
      refine ⟨true, n + 1, rfl, ?_⟩
      rw [Numeral.decimal, String.toList_ofList]
      exact ⟨_, rfl, isDecimal_digits (n + 1)⟩

end WrittenLiteral

theorem Literal.spelledBy_display (literal : Literal) :
    literal.SpelledBy literal.display.toList := by
  cases literal with
  | int n => exact WrittenLiteral.spelledBy_decimal n.toInt
  | hex bits =>
      refine ⟨'x', Numeral.digits 16 bits.toNat, Or.inl rfl, ?_, ?_⟩
      · simp [Literal.display, Numeral.hexadecimal]
      · exact WrittenLiteral.isPattern_digits bits.toNat
  | min => rfl
  | max => rfl

/-! ## Accepted texts from their parts -/

theorem Layout.Spells.parse_eq_ok {layout : Layout} {s : Subtraction} {text : String}
    (spells : layout.Spells s) (whole : layout.text = text.toList) : parse text = .ok s := by
  obtain ⟨first, second, denotesFirst, denotesSecond, ends⟩ := spells.exists_ends
  rw [whole] at ends
  exact parse_eq_ok_iff.mpr ⟨_, _, ends, denotesFirst, denotesSecond⟩

theorem parse_of_spellings {s : Subtraction} {first second : String}
    (minuend : s.minuend.SpelledBy first.toList)
    (subtrahend : s.subtrahend.SpelledBy second.toList) :
    parse (first ++ " - " ++ second) = .ok s := by
  have space : Blanks [' '] := by
    intro c member
    rw [List.mem_singleton.mp member]
    decide
  have spells : Layout.Spells ⟨[], first.toList, [' '], [' '], second.toList, []⟩ s :=
    ⟨blanks_nil, space, space, blanks_nil, minuend, subtrahend⟩
  exact spells.parse_eq_ok (by simp [Layout.text])

theorem parseCase_of_parse {text : String} {s : Subtraction} (accepted : parse text = .ok s)
    (overflow : Bool) :
    parseCase (text ++ " => " ++ Case.expectation overflow) = .ok ⟨s, overflow⟩ := by
  obtain ⟨minuend, subtrahend, ends, denoted⟩ := parse_eq_ok_iff.mp accepted
  have spaced := endsOperand_blank ends (by decide : Text.isBlank ' ' = true)
  have arrow := endsArrow_blank (endsArrow_head spaced) (by decide : Text.isBlank ' ' = true)
  have line := endsExpectation_word arrow overflow
  apply parseCase_eq_ok_iff.mpr
  exact ⟨minuend, subtrahend, by simpa using line, denoted⟩

/-! ## Round trips -/

/-- A displayed expression is read as it was, with its kinds of literals. -/
theorem parse_undoes_display :
    (∀ s : Subtraction, parse s.display = .ok s) ∧
      ∀ (text : String) (s : Subtraction), parse text = .ok s → parse s.display = parse text := by
  have displayed : ∀ s : Subtraction, parse s.display = .ok s := by
    intro s
    exact parse_of_spellings s.minuend.spelledBy_display s.subtrahend.spelledBy_display
  refine ⟨displayed, ?_⟩
  intro text s accepted
  rw [accepted]
  exact displayed s

/-- A bit pattern stays one, though it loses its leading zeros and small letters. -/
theorem parse_display_of_padded_pattern :
    parse " 0X00fF-  MAX" = .ok ⟨.hex 0xFF, .max⟩ ∧
      parse "0xFF - MAX" = parse " 0X00fF-  MAX" := by
  have accepted : parse " 0X00fF-  MAX" = .ok ⟨.hex 0xFF, .max⟩ := by
    rw [parse, read_eq_verdict]
    rfl
  have pattern : Numeral.hexadecimal (0xFF : UInt64).toNat = "FF" := by
    simp [Numeral.hexadecimal, Numeral.digits, Numeral.digitChar]
  have again := parse_undoes_display.2 _ _ accepted
  rw [Subtraction.display, Literal.display, Literal.display, pattern] at again
  exact ⟨accepted, again⟩

def Case.toLine (case : Case) : CaseLine :=
  ⟨⟨.int case.a, .int case.b⟩, case.expectOverflow⟩

theorem Case.parseCase_display (case : Case) : parseCase case.display = .ok case.toLine := by
  have accepted : parse case.toLine.expression.display = .ok case.toLine.expression :=
    parse_of_spellings (WrittenLiteral.spelledBy_decimal case.a.toInt)
      (WrittenLiteral.spelledBy_decimal case.b.toInt)
  exact parseCase_of_parse accepted case.expectOverflow

/-- A displayed case is read as its decimal line.  So the displayed case of an accepted line is
accepted again, as a line of the same case, and displayed as it stands. -/
theorem parseCase_undoes_display :
    (∀ case : Case, parseCase case.display = .ok case.toLine ∧ case.toLine.toCase = case) ∧
      ∀ (text : String) (line : CaseLine), parseCase text = .ok line →
        ∃ normal, parseCase line.toCase.display = .ok normal ∧ normal.toCase = line.toCase ∧
          normal.toCase.display = line.toCase.display := by
  refine ⟨fun case => ⟨case.parseCase_display, rfl⟩, ?_⟩
  intro text line _
  exact ⟨line.toCase.toLine, line.toCase.parseCase_display, rfl, rfl⟩

/-- A bit pattern and a signed zero become plain decimals. -/
theorem normal_form_of_pattern :
    parseCase "0X0a--0=>\tok " = .ok ⟨⟨.hex 10, .int 0⟩, false⟩ ∧
      ∃ normal, parseCase "10 - 0 => ok" = .ok normal ∧ normal.toCase = ⟨10, 0, false⟩ := by
  have accepted : parseCase "0X0a--0=>\tok " = .ok ⟨⟨.hex 10, .int 0⟩, false⟩ := by
    rw [parseCase, read_eq_verdict]
    rfl
  have ten : Numeral.decimal (10 : UInt64).toInt64.toInt = "10" := by
    simp [Numeral.decimal, Numeral.digits, Numeral.digitChar]
  have zero : Numeral.decimal (0 : Int64).toInt = "0" := by
    simp [Numeral.decimal, Numeral.digits, Numeral.digitChar]
  obtain ⟨normal, again, same, _⟩ := parseCase_undoes_display.2 _ _ accepted
  simp only [CaseLine.toCase, Case.display, Literal.value, ten, zero] at again
  exact ⟨accepted, normal, again, same⟩

end SignedDifference
