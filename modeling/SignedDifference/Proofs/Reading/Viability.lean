import SignedDifference.Proofs.Reading.Progress

/-!
# Viable beginnings

A text can be completed to one of the form if and only if the reader can take all of it
(`viable_iff`), and it has the form if and only if the stage it leads to has a result
(`matches_iff`).
-/

set_option autoImplicit false

namespace SignedDifference

open Text (byteCount byteCount_append isBlank)

/-! ## The form with its places -/

theorem endsMinus_of_parts {before first afterFirst beforeSecond : List Char}
    {written : WrittenLiteral} (blanksBefore : Blanks before) (spelled : written.SpelledBy first)
    (blanksAfterFirst : Blanks afterFirst) (blanksBeforeSecond : Blanks beforeSecond) :
    EndsMinus ⟨⟨byteCount before, byteCount (before ++ first)⟩, written⟩
      (before ++ first ++ afterFirst ++ '-' :: beforeSecond) :=
  ⟨before ++ first ++ afterFirst, beforeSecond,
    ⟨before, first, afterFirst, blanksBefore, ⟨spelled, rfl⟩, blanksAfterFirst, rfl⟩,
    blanksBeforeSecond, rfl⟩

theorem isExpression_iff {minuend subtrahend : WrittenLiteral} {text : List Char} :
    IsExpression minuend subtrahend text ↔
      ∃ left right : Operand, EndsSubtrahend left right text ∧ left.written = minuend ∧
        right.written = subtrahend := by
  constructor
  · intro isExpression
    obtain ⟨before, first, afterFirst, beforeSecond, second, after, blanksBefore, blanksAfterFirst,
      blanksBeforeSecond, blanksAfter, spelledFirst, spelledSecond, rfl⟩ := isExpression
    have minus := endsMinus_of_parts blanksBefore spelledFirst blanksAfterFirst blanksBeforeSecond
    exact ⟨_, ⟨⟨_, _⟩, subtrahend⟩,
      ⟨_, second, after, minus, ⟨spelledSecond, rfl⟩, blanksAfter, by simp⟩, rfl, rfl⟩
  · intro placed
    obtain ⟨left, right, ⟨front, second, after, ⟨text, beforeSecond, ⟨before, first, afterFirst,
      blanksBefore, ⟨spelledFirst, _⟩, blanksAfterFirst, rfl⟩, blanksBeforeSecond, rfl⟩,
      ⟨spelledSecond, _⟩, blanksAfter, rfl⟩, rfl, rfl⟩ := placed
    exact ⟨before, first, afterFirst, beforeSecond, second, after, blanksBefore, blanksAfterFirst,
      blanksBeforeSecond, blanksAfter, spelledFirst, spelledSecond, by simp⟩

theorem isCaseLine_iff {minuend subtrahend : WrittenLiteral} {overflow : Bool} {text : List Char} :
    IsCaseLine minuend subtrahend overflow text ↔
      ∃ left right : Operand, EndsExpectation left right overflow text ∧ left.written = minuend ∧
        right.written = subtrahend := by
  constructor
  · intro isCaseLine
    obtain ⟨expression, before, after, isExpression, blanksBefore, blanksAfter, rfl⟩ := isCaseLine
    obtain ⟨left, right, ends, writtenLeft, writtenRight⟩ := isExpression_iff.mp isExpression
    exact ⟨left, right, ⟨expression ++ '=' :: '>' :: before, after,
      ⟨expression, before, ends, blanksBefore, rfl⟩, blanksAfter, by simp⟩,
      writtenLeft, writtenRight⟩
  · intro placed
    obtain ⟨left, right, ⟨line, after, ⟨expression, before, ends, blanksBefore, rfl⟩, blanksAfter,
      rfl⟩, writtenLeft, writtenRight⟩ := placed
    exact ⟨expression, before, after,
      isExpression_iff.mpr ⟨left, right, ends, writtenLeft, writtenRight⟩, blanksBefore,
      blanksAfter, by simp⟩

def Form.Completes (minuend subtrahend : Operand) : Form → List Char → Prop
  | .expression, text => EndsSubtrahend minuend subtrahend text
  | .caseLine, text => ∃ overflow, EndsExpectation minuend subtrahend overflow text

theorem matches_iff_completes {form : Form} {text : List Char} :
    form.Matches text ↔ ∃ minuend subtrahend, form.Completes minuend subtrahend text := by
  cases form with
  | expression =>
      constructor
      · intro isMatch
        obtain ⟨minuend, subtrahend, isExpression⟩ := isMatch
        obtain ⟨left, right, ends, _, _⟩ := isExpression_iff.mp isExpression
        exact ⟨left, right, ends⟩
      · intro completes
        obtain ⟨left, right, ends⟩ := completes
        exact ⟨_, _, isExpression_iff.mpr ⟨left, right, ends, rfl, rfl⟩⟩
  | caseLine =>
      constructor
      · intro isMatch
        obtain ⟨minuend, subtrahend, overflow, isCaseLine⟩ := isMatch
        obtain ⟨left, right, ends, _, _⟩ := isCaseLine_iff.mp isCaseLine
        exact ⟨left, right, overflow, ends⟩
      · intro completes
        obtain ⟨left, right, overflow, ends⟩ := completes
        exact ⟨_, _, overflow, isCaseLine_iff.mpr ⟨left, right, ends, rfl, rfl⟩⟩

/-! ## What can be read can be completed -/

theorem viable_of_append {form : Form} {front back : List Char}
    (viable : form.Viable (front ++ back)) : form.Viable front := by
  obtain ⟨rest, isMatch⟩ := viable
  exact ⟨back ++ rest, by rwa [← List.append_assoc]⟩

theorem viable_of_matches {form : Form} {text : List Char} (isMatch : form.Matches text) :
    form.Viable text :=
  ⟨[], by rwa [List.append_nil]⟩

theorem viable_of_endsArrow {minuend subtrahend : Operand} {text : List Char}
    (ends : EndsArrow minuend subtrahend text) : Form.caseLine.Viable text :=
  viable_of_append (viable_of_matches (matches_iff_completes.mpr
    ⟨minuend, subtrahend, false, endsExpectation_word ends false⟩))

theorem viable_of_letters {minuend subtrahend : Operand} {line letters rest : List Char}
    (overflow : Bool) (ends : EndsArrow minuend subtrahend line)
    (spelled : letters ++ rest = (Case.expectation overflow).toList) :
    Form.caseLine.Viable (line ++ letters) := by
  have word := endsExpectation_word ends overflow
  rw [← spelled, ← List.append_assoc] at word
  exact viable_of_append (viable_of_matches (matches_iff_completes.mpr
    ⟨minuend, subtrahend, overflow, word⟩))

theorem viable_of_endsSubtrahend {form : Form} {minuend subtrahend : Operand} {text : List Char}
    (ends : EndsSubtrahend minuend subtrahend text) : form.Viable text := by
  cases form with
  | expression => exact viable_of_matches (matches_iff_completes.mpr ⟨minuend, subtrahend, ends⟩)
  | caseLine => exact viable_of_append (viable_of_endsArrow (endsArrow_head ends))

theorem spelledBy_zero : (WrittenLiteral.decimal false 0).SpelledBy ['0'] :=
  WrittenLiteral.isDecimal_singleton.mpr rfl

theorem viable_of_endsMinus {form : Form} {minuend : Operand} {text : List Char}
    (ends : EndsMinus minuend text) : form.Viable text :=
  viable_of_append (viable_of_endsSubtrahend (endsOperand_token ends spelledBy_zero))

theorem viable_of_endsMinuend {form : Form} {minuend : Operand} {text : List Char}
    (ends : EndsMinuend minuend text) : form.Viable text :=
  viable_of_append (viable_of_endsMinus (endsMinus_sign ends))

theorem viable_of_blanks {form : Form} {text : List Char} (blanks : Blanks text) :
    form.Viable text :=
  viable_of_append (viable_of_endsMinuend (endsOperand_token blanks spelledBy_zero))

theorem viable_of_token {form : Form} {opens : List Char → Prop} {front token : List Char}
    {literal : PartialLiteral} (opened : opens front) (stands : literal.StandsFor token)
    (viable : ∀ operand text, EndsOperand opens operand text → form.Viable text) :
    form.Viable (front ++ token) := by
  obtain ⟨rest, written, spelled⟩ := PartialLiteral.exists_completion stands
  have whole := viable _ _ (endsOperand_token opened spelled)
  rw [← List.append_assoc] at whole
  exact viable_of_append whole

theorem Stage.Describes.viable {form : Form} {text : List Char} {stage : Stage}
    (described : stage.Describes form text) : form.Viable text := by
  cases stage with
  | beforeMinuend => exact viable_of_blanks described
  | inMinuend start literal =>
      obtain ⟨front, token, blanks, _, stands, rfl⟩ := described
      exact viable_of_token blanks stands fun _ _ ends => viable_of_endsMinuend ends
  | afterMinuend minuend => exact viable_of_endsMinuend described
  | beforeSubtrahend minuend => exact viable_of_endsMinus described
  | inSubtrahend minuend start literal =>
      obtain ⟨front, token, ends, _, stands, rfl⟩ := described
      exact viable_of_token ends stands fun _ _ ends => viable_of_endsSubtrahend ends
  | afterSubtrahend minuend subtrahend => exact viable_of_endsSubtrahend described
  | afterEquals minuend subtrahend =>
      obtain ⟨rfl, expression, ends, rfl⟩ := described
      have arrow := endsArrow_head ends
      rw [← List.singleton_append, ← List.append_assoc] at arrow
      exact viable_of_append (viable_of_endsArrow arrow)
  | beforeExpectation minuend subtrahend =>
      obtain ⟨rfl, ends⟩ := described
      exact viable_of_endsArrow ends
  | afterO minuend subtrahend =>
      obtain ⟨rfl, line, ends, rfl⟩ := described
      exact viable_of_letters false ends rfl
  | inOverflow minuend subtrahend next rest =>
      obtain ⟨rfl, line, letters, ends, _, spelled, rfl⟩ := described
      exact viable_of_letters true ends spelled
  | finished minuend subtrahend overflow =>
      obtain ⟨rfl, ends⟩ := described
      exact viable_of_matches (matches_iff_completes.mpr ⟨minuend, subtrahend, overflow, ends⟩)

/-! ## What can be completed can be read -/

theorem Form.Completes.settles {form : Form} {minuend subtrahend : Operand} {text : List Char}
    (completes : form.Completes minuend subtrahend text) :
    ∃ stage, Stage.Settles form text stage ∧ (stage.result? form).isSome := by
  cases form with
  | expression => exact ⟨_, Stage.settles_of_endsSubtrahend completes, rfl⟩
  | caseLine =>
      obtain ⟨overflow, ends⟩ := completes
      exact ⟨_, ⟨_, Stage.after?_of_endsExpectation ends, rfl⟩, rfl⟩

theorem viable_iff {form : Form} {text : List Char} :
    form.Viable text ↔ ∃ stage, Stage.after? form text = some stage := by
  constructor
  · intro viable
    obtain ⟨rest, isMatch⟩ := viable
    obtain ⟨minuend, subtrahend, completes⟩ := matches_iff_completes.mp isMatch
    obtain ⟨_, ⟨raw, reached, _⟩, _⟩ := completes.settles
    exact Stage.exists_after?_of_append reached
  · intro readable
    obtain ⟨stage, reached⟩ := readable
    exact (Stage.describes_after reached).viable

theorem completes_of_result? {form : Form} {text : List Char} {stage : Stage}
    (described : stage.Describes form text) (complete : (stage.result? form).isSome) :
    ∃ minuend subtrahend, form.Completes minuend subtrahend text := by
  cases form with
  | expression =>
      cases stage with
      | afterSubtrahend minuend subtrahend => exact ⟨minuend, subtrahend, described⟩
      | _ => simp [Stage.result?] at complete
  | caseLine =>
      cases stage with
      | finished minuend subtrahend overflow =>
          exact ⟨minuend, subtrahend, overflow, described.2⟩
      | _ => simp [Stage.result?] at complete

theorem matches_iff {form : Form} {text : List Char} :
    form.Matches text ↔
      ∃ stage, Stage.Settles form text stage ∧ (stage.result? form).isSome := by
  rw [matches_iff_completes]
  constructor
  · intro complete
    obtain ⟨minuend, subtrahend, completes⟩ := complete
    exact completes.settles
  · intro readable
    obtain ⟨stage, ⟨raw, reached, ended⟩, complete⟩ := readable
    exact completes_of_result?
      (Stage.describes_settle (Stage.describes_after reached) ended) complete

end SignedDifference
