import SignedDifference.Proofs.Reading.Verdict

/-!
# Case lines around an arrow

A case line is an expression, an arrow and an expectation: what stands before the arrow is accepted
as an expression on its own, and what stands behind it is the expectation with blanks around it.
There is one arrow that cuts a text like this, because an expression never goes on with an equals
sign (`parseCase_ok_iff_cut`).
-/

set_option autoImplicit false

namespace SignedDifference

open Text (byteCount trim)

theorem Case.expectation_inj {overflow other : Bool}
    (same : Case.expectation overflow = Case.expectation other) : overflow = other := by
  revert same
  cases overflow <;> cases other <;> decide

theorem trim_expectation {before after : List Char} (overflow : Bool) (blanksBefore : Blanks before)
    (blanksAfter : Blanks after) :
    trim (before ++ (Case.expectation overflow).toList ++ after) =
      (Case.expectation overflow).toList := by
  apply Text.trim_append blanksBefore blanksAfter
  · cases overflow <;> decide
  · cases overflow <;> simp [Case.expectation] <;> decide
  · cases overflow <;> simp [Case.expectation] <;> decide

theorem endsExpectation_iff {minuend subtrahend : Operand} {overflow : Bool} {text : List Char} :
    EndsExpectation minuend subtrahend overflow text ↔
      ∃ expression rest, EndsSubtrahend minuend subtrahend expression ∧
        trim rest = (Case.expectation overflow).toList ∧
          text = expression ++ '=' :: '>' :: rest := by
  constructor
  · intro ends
    obtain ⟨_, after, ⟨expression, before, endsExpression, blanksBefore, rfl⟩, blanksAfter, rfl⟩ :=
      ends
    exact ⟨expression, _, endsExpression, trim_expectation overflow blanksBefore blanksAfter,
      by simp⟩
  · intro cut
    obtain ⟨expression, rest, endsExpression, trimmed, rfl⟩ := cut
    obtain ⟨before, after, blanksBefore, blanksAfter, whole⟩ := Text.exists_append_trim rest
    rw [trimmed] at whole
    refine ⟨expression ++ '=' :: '>' :: before, after, ?_, blanksAfter, ?_⟩
    · exact ⟨expression, before, endsExpression, blanksBefore, rfl⟩
    · rw [whole]
      simp

theorem not_viable_equals {minuend subtrahend : Operand} {expression : List Char}
    (ends : EndsSubtrahend minuend subtrahend expression) :
    ¬ Form.expression.Viable (expression ++ ['=']) := by
  intro viable
  obtain ⟨stage, reached⟩ := viable_iff.mp viable
  have settles : Stage.Settles .expression expression _ := Stage.settles_of_endsSubtrahend ends
  rw [settles.after?_concat (Or.inr (Or.inr rfl))] at reached
  have stuck : (Stage.afterSubtrahend minuend subtrahend).proceed? .expression
      (byteCount expression) '=' = none := rfl
  rw [stuck] at reached
  simp at reached

theorem eq_nil_of_append_equals {minuend subtrahend minuend' subtrahend' : Operand}
    {shorter more back rest : List Char} (short : EndsSubtrahend minuend subtrahend shorter)
    (long : EndsSubtrahend minuend' subtrahend' (shorter ++ more))
    (equals : more ++ back = '=' :: rest) : more = [] := by
  cases more with
  | nil => rfl
  | cons c more =>
      obtain ⟨rfl, _⟩ := List.cons.inj equals
      rw [← List.singleton_append, ← List.append_assoc] at long
      exact absurd (viable_of_append (viable_of_endsSubtrahend long)) (not_viable_equals short)

theorem eq_of_append_equals {minuend subtrahend minuend' subtrahend' : Operand}
    {expression other rest later : List Char} (ends : EndsSubtrahend minuend subtrahend expression)
    (otherEnds : EndsSubtrahend minuend' subtrahend' other)
    (same : expression ++ '=' :: rest = other ++ '=' :: later) : expression = other := by
  rcases List.append_eq_append_iff.mp same with ⟨more, rfl, tails⟩ | ⟨more, rfl, tails⟩
  · rw [eq_nil_of_append_equals ends otherEnds tails.symm, List.append_nil]
  · rw [eq_nil_of_append_equals otherEnds ends tails.symm, List.append_nil]

/-- The text is cut at an arrow into what is accepted as the expression of the line, and its
expectation, which may have blanks around it. -/
structure CutAtArrow (text expression expectation : String) (line : CaseLine) : Prop where
  text_eq : text = expression ++ "=>" ++ expectation
  parsed : parse expression = .ok line.expression
  trimmed : trim expectation.toList = (Case.expectation line.expectOverflow).toList

namespace CutAtArrow

variable {text expression expectation other rest : String} {line otherLine : CaseLine}

theorem toList_eq (cut : CutAtArrow text expression expectation line) :
    text.toList = expression.toList ++ '=' :: '>' :: expectation.toList := by
  rw [cut.text_eq, String.toList_append, String.toList_append, List.append_assoc]
  rfl

theorem expression_unique (cut : CutAtArrow text expression expectation line)
    (otherCut : CutAtArrow text other rest otherLine) : expression = other := by
  obtain ⟨_, _, ends, _⟩ := parse_eq_ok_iff.mp cut.parsed
  obtain ⟨_, _, otherEnds, _⟩ := parse_eq_ok_iff.mp otherCut.parsed
  apply String.toList_injective
  exact eq_of_append_equals ends otherEnds (cut.toList_eq.symm.trans otherCut.toList_eq)

theorem expectation_unique (cut : CutAtArrow text expression expectation line)
    (otherCut : CutAtArrow text expression rest otherLine) : expectation = rest := by
  have same := cut.toList_eq.symm.trans otherCut.toList_eq
  apply String.toList_injective
  simpa using same

theorem line_unique (cut : CutAtArrow text expression expectation line)
    (otherCut : CutAtArrow text expression expectation otherLine) : line = otherLine := by
  have expressions := Except.ok.inj (cut.parsed.symm.trans otherCut.parsed)
  have words := String.toList_injective (cut.trimmed.symm.trans otherCut.trimmed)
  have overflows := Case.expectation_inj words
  cases line
  cases otherLine
  rw [CaseLine.mk.injEq]
  exact ⟨expressions, overflows⟩

end CutAtArrow

/-- A text is accepted as a case line if and only if an arrow cuts it into an accepted expression
and the word of an expectation, and there is one such cut. -/
theorem parseCase_ok_iff_cut (text : String) :
    (∀ line, parseCase text = .ok line ↔
      ∃ expression expectation, CutAtArrow text expression expectation line) ∧
      ∀ expression expectation line other rest otherLine,
        CutAtArrow text expression expectation line → CutAtArrow text other rest otherLine →
          expression = other ∧ expectation = rest ∧ line = otherLine := by
  constructor
  · intro line
    rw [parseCase_eq_ok_iff]
    constructor
    · intro placed
      obtain ⟨minuend, subtrahend, ends, denoted⟩ := placed
      obtain ⟨expression, rest, endsExpression, trimmed, whole⟩ := endsExpectation_iff.mp ends
      refine ⟨String.ofList expression, String.ofList rest, ?_, ?_, ?_⟩
      · apply String.toList_injective
        rw [whole]
        simp
      · rw [parse_eq_ok_iff, String.toList_ofList]
        exact ⟨minuend, subtrahend, endsExpression, denoted⟩
      · rwa [String.toList_ofList]
    · intro divided
      obtain ⟨expression, expectation, cut⟩ := divided
      obtain ⟨minuend, subtrahend, ends, denoted⟩ := parse_eq_ok_iff.mp cut.parsed
      refine ⟨minuend, subtrahend, ?_, denoted⟩
      exact endsExpectation_iff.mpr ⟨_, _, ends, cut.trimmed, cut.toList_eq⟩
  · intro expression expectation line other rest otherLine cut otherCut
    obtain rfl := cut.expression_unique otherCut
    obtain rfl := cut.expectation_unique otherCut
    exact ⟨rfl, rfl, cut.line_unique otherCut⟩

/-- The minus sign of a compact expression, the arrow and the blanks are told apart. -/
theorem cut_of_compact_line :
    CutAtArrow " MIN-1=>\t overflow " " MIN-1" "\t overflow " ⟨⟨.min, .int 1⟩, true⟩ ∧
      parseCase " MIN-1=>\t overflow " = .ok ⟨⟨.min, .int 1⟩, true⟩ ∧
      ∀ expression expectation line,
        CutAtArrow " MIN-1=>\t overflow " expression expectation line → expression = " MIN-1" := by
  have accepted : parse " MIN-1" = .ok ⟨.min, .int 1⟩ := by
    rw [parse, read_eq_verdict]
    rfl
  have cut : CutAtArrow " MIN-1=>\t overflow " " MIN-1" "\t overflow " ⟨⟨.min, .int 1⟩, true⟩ :=
    ⟨by decide, accepted, by decide⟩
  obtain ⟨divides, unique⟩ := parseCase_ok_iff_cut " MIN-1=>\t overflow "
  refine ⟨cut, (divides _).mpr ⟨_, _, cut⟩, ?_⟩
  intro expression expectation line otherCut
  exact (unique _ _ _ _ _ _ otherCut cut).1

end SignedDifference
