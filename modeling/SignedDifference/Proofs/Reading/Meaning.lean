import SignedDifference.Proofs.Reading.Run
import SignedDifference.Proofs.Reading.Spelling
import SignedDifference.Reading.Place

/-!
# What a stage says of the text

`Stage.Describes` says what a text that leads to a stage looks like.  Each character that is taken
keeps the description true (`describes_next`), so it holds after every text that can be read
(`describes_after`).
-/

set_option autoImplicit false

namespace SignedDifference

open Text (byteCount byteCount_append isBlank)

theorem blanks_nil : Blanks [] := by
  intro c member
  simp at member

theorem blanks_concat {gap : List Char} {c : Char} (blanks : Blanks gap)
    (blank : isBlank c = true) : Blanks (gap ++ [c]) := by
  intro d member
  rcases List.mem_append.mp member with earlier | last
  · exact blanks d earlier
  · rw [List.mem_singleton.mp last]
    exact blank

theorem endsOperand_token {opens : List Char → Prop} {front token : List Char}
    {written : WrittenLiteral} (opened : opens front) (spelled : written.SpelledBy token) :
    EndsOperand opens ⟨⟨byteCount front, byteCount (front ++ token)⟩, written⟩ (front ++ token) :=
  ⟨front, token, [], opened, ⟨spelled, rfl⟩, blanks_nil, (List.append_nil _).symm⟩

theorem endsOperand_blank {opens : List Char → Prop} {operand : Operand} {text : List Char}
    {c : Char} (ends : EndsOperand opens operand text) (blank : isBlank c = true) :
    EndsOperand opens operand (text ++ [c]) := by
  obtain ⟨front, token, gap, opened, covers, blanks, rfl⟩ := ends
  exact ⟨front, token, gap ++ [c], opened, covers, blanks_concat blanks blank, by simp⟩

theorem endsMinus_sign {minuend : Operand} {text : List Char} (ends : EndsMinuend minuend text) :
    EndsMinus minuend (text ++ ['-']) :=
  ⟨text, [], ends, blanks_nil, rfl⟩

theorem endsMinus_blank {minuend : Operand} {text : List Char} {c : Char}
    (ends : EndsMinus minuend text) (blank : isBlank c = true) :
    EndsMinus minuend (text ++ [c]) := by
  obtain ⟨left, gap, endsLeft, blanks, rfl⟩ := ends
  exact ⟨left, gap ++ [c], endsLeft, blanks_concat blanks blank, by simp⟩

theorem endsArrow_head {minuend subtrahend : Operand} {expression : List Char}
    (ends : EndsSubtrahend minuend subtrahend expression) :
    EndsArrow minuend subtrahend (expression ++ ['=', '>']) :=
  ⟨expression, [], ends, blanks_nil, rfl⟩

theorem endsArrow_blank {minuend subtrahend : Operand} {text : List Char} {c : Char}
    (ends : EndsArrow minuend subtrahend text) (blank : isBlank c = true) :
    EndsArrow minuend subtrahend (text ++ [c]) := by
  obtain ⟨expression, gap, endsExpression, blanks, rfl⟩ := ends
  exact ⟨expression, gap ++ [c], endsExpression, blanks_concat blanks blank, by simp⟩

theorem endsExpectation_word {minuend subtrahend : Operand} {line : List Char}
    (ends : EndsArrow minuend subtrahend line) (overflow : Bool) :
    EndsExpectation minuend subtrahend overflow
      (line ++ (Case.expectation overflow).toList) :=
  ⟨line, [], ends, blanks_nil, (List.append_nil _).symm⟩

theorem endsExpectation_blank {minuend subtrahend : Operand} {overflow : Bool} {text : List Char}
    {c : Char} (ends : EndsExpectation minuend subtrahend overflow text)
    (blank : isBlank c = true) :
    EndsExpectation minuend subtrahend overflow (text ++ [c]) := by
  obtain ⟨line, gap, endsLine, blanks, rfl⟩ := ends
  exact ⟨line, gap ++ [c], endsLine, blanks_concat blanks blank, by simp⟩

namespace Stage

/-- What a text that leads to the stage looks like. -/
def Describes (form : Form) (text : List Char) : Stage → Prop
  | .beforeMinuend => Blanks text
  | .inMinuend start literal =>
      ∃ front token, Blanks front ∧ start = byteCount front ∧ literal.StandsFor token ∧
        text = front ++ token
  | .afterMinuend minuend => EndsMinuend minuend text
  | .beforeSubtrahend minuend => EndsMinus minuend text
  | .inSubtrahend minuend start literal =>
      ∃ front token, EndsMinus minuend front ∧ start = byteCount front ∧
        literal.StandsFor token ∧ text = front ++ token
  | .afterSubtrahend minuend subtrahend => EndsSubtrahend minuend subtrahend text
  | .afterEquals minuend subtrahend =>
      form = .caseLine ∧
        ∃ expression, EndsSubtrahend minuend subtrahend expression ∧ text = expression ++ ['=']
  | .beforeExpectation minuend subtrahend =>
      form = .caseLine ∧ EndsArrow minuend subtrahend text
  | .afterO minuend subtrahend =>
      form = .caseLine ∧ ∃ line, EndsArrow minuend subtrahend line ∧ text = line ++ ['o']
  | .inOverflow minuend subtrahend next rest =>
      form = .caseLine ∧ ∃ line letters, EndsArrow minuend subtrahend line ∧ 2 ≤ letters.length ∧
        letters ++ next :: rest = "overflow".toList ∧ text = line ++ letters
  | .finished minuend subtrahend overflow =>
      form = .caseLine ∧ EndsExpectation minuend subtrahend overflow text

variable {form : Form} {text : List Char} {c : Char} {stage : Stage}

theorem describes_extend {next : Stage} (described : stage.Describes form text)
    (taken : stage.extend? c = some next) : next.Describes form (text ++ [c]) := by
  cases stage with
  | inMinuend start literal =>
      obtain ⟨extended, longer, rfl⟩ := Option.map_eq_some_iff.mp taken
      obtain ⟨front, token, blanks, placed, stands, rfl⟩ := described
      exact ⟨front, token ++ [c], blanks, placed, PartialLiteral.standsFor_extend stands longer,
        List.append_assoc _ _ _⟩
  | inSubtrahend minuend start literal =>
      obtain ⟨extended, longer, rfl⟩ := Option.map_eq_some_iff.mp taken
      obtain ⟨front, token, ends, placed, stands, rfl⟩ := described
      exact ⟨front, token ++ [c], ends, placed, PartialLiteral.standsFor_extend stands longer,
        List.append_assoc _ _ _⟩
  | _ => simp [extend?] at taken

theorem eq_whole_of_complete? {literal : PartialLiteral} {written : WrittenLiteral}
    (complete : literal.complete? = some written) : literal = .whole written := by
  cases literal <;> simp_all [PartialLiteral.complete?]

theorem describes_settle {settled : Stage} (described : stage.Describes form text)
    (ended : stage.settle? (byteCount text) = some settled) : settled.Describes form text := by
  cases stage with
  | inMinuend start literal =>
      obtain ⟨written, complete, rfl⟩ := Option.map_eq_some_iff.mp ended
      obtain ⟨front, token, blanks, rfl, stands, rfl⟩ := described
      rw [eq_whole_of_complete? complete] at stands
      exact endsOperand_token blanks stands
  | inSubtrahend minuend start literal =>
      obtain ⟨written, complete, rfl⟩ := Option.map_eq_some_iff.mp ended
      obtain ⟨front, token, ends, rfl, stands, rfl⟩ := described
      rw [eq_whole_of_complete? complete] at stands
      exact endsOperand_token ends stands
  | _ => cases ended; exact described

theorem describes_proceed {next : Stage} (described : stage.Describes form text)
    (taken : stage.proceed? form (byteCount text) c = some next) :
    next.Describes form (text ++ [c]) := by
  cases stage with
  | beforeMinuend =>
      simp only [proceed?] at taken
      split at taken
      · rename_i blank
        cases taken
        exact blanks_concat described blank
      · obtain ⟨literal, begun, rfl⟩ := Option.map_eq_some_iff.mp taken
        exact ⟨text, [c], described, rfl, PartialLiteral.standsFor_begin begun, rfl⟩
  | afterMinuend minuend =>
      simp only [proceed?] at taken
      split at taken
      · rename_i blank
        cases taken
        exact endsOperand_blank described blank
      · simp only [Option.ite_none_right_eq_some, Option.some.injEq] at taken
        obtain ⟨rfl, rfl⟩ := taken
        exact endsMinus_sign described
  | beforeSubtrahend minuend =>
      simp only [proceed?] at taken
      split at taken
      · rename_i blank
        cases taken
        exact endsMinus_blank described blank
      · obtain ⟨literal, begun, rfl⟩ := Option.map_eq_some_iff.mp taken
        exact ⟨text, [c], described, rfl, PartialLiteral.standsFor_begin begun, rfl⟩
  | afterSubtrahend minuend subtrahend =>
      simp only [proceed?] at taken
      split at taken
      · rename_i blank
        cases taken
        exact endsOperand_blank described blank
      · simp only [Option.ite_none_right_eq_some, Option.some.injEq] at taken
        obtain ⟨⟨isLine, rfl⟩, rfl⟩ := taken
        exact ⟨isLine, text, described, rfl⟩
  | afterEquals minuend subtrahend =>
      simp only [proceed?, Option.ite_none_right_eq_some, Option.some.injEq] at taken
      obtain ⟨rfl, rfl⟩ := taken
      obtain ⟨isLine, expression, ends, rfl⟩ := described
      rw [List.append_assoc]
      exact ⟨isLine, endsArrow_head ends⟩
  | beforeExpectation minuend subtrahend =>
      obtain ⟨isLine, ends⟩ := described
      simp only [proceed?] at taken
      split at taken
      · rename_i blank
        cases taken
        exact ⟨isLine, endsArrow_blank ends blank⟩
      · simp only [Option.ite_none_right_eq_some, Option.some.injEq] at taken
        obtain ⟨rfl, rfl⟩ := taken
        exact ⟨isLine, text, ends, rfl⟩
  | afterO minuend subtrahend =>
      obtain ⟨isLine, line, ends, rfl⟩ := described
      rw [List.append_assoc]
      simp only [proceed?] at taken
      split at taken
      · rename_i letter
        cases taken
        exact ⟨isLine, line, ['o', c], ends, by simp, by rw [letter]; rfl, rfl⟩
      · simp only [Option.ite_none_right_eq_some, Option.some.injEq] at taken
        obtain ⟨rfl, rfl⟩ := taken
        exact ⟨isLine, endsExpectation_word ends false⟩
  | inOverflow minuend subtrahend letter rest =>
      obtain ⟨isLine, line, letters, ends, long, spelled, rfl⟩ := described
      rw [List.append_assoc]
      simp only [proceed?] at taken
      split at taken
      · rename_i same
        split at taken
        · cases taken
          rw [same, spelled]
          exact ⟨isLine, endsExpectation_word ends true⟩
        · rename_i following later
          cases taken
          rw [same]
          have longer : 2 ≤ (letters ++ [letter]).length := by
            rw [List.length_append]
            omega
          exact ⟨isLine, line, letters ++ [letter], ends, longer, by simpa using spelled, rfl⟩
      · simp at taken
  | finished minuend subtrahend overflow =>
      obtain ⟨isLine, ends⟩ := described
      simp only [proceed?, Option.ite_none_right_eq_some, Option.some.injEq] at taken
      obtain ⟨blank, rfl⟩ := taken
      exact ⟨isLine, endsExpectation_blank ends blank⟩
  | inMinuend start literal => simp [proceed?] at taken
  | inSubtrahend minuend start literal => simp [proceed?] at taken

theorem describes_next {next : Stage} (described : stage.Describes form text)
    (taken : stage.next? form (byteCount text) c = some next) :
    next.Describes form (text ++ [c]) := by
  unfold next? at taken
  split at taken
  · rename_i extended longer
    cases taken
    exact describes_extend described longer
  · obtain ⟨settled, ended, proceeded⟩ := Option.bind_eq_some_iff.mp taken
    exact describes_proceed (describes_settle described ended) proceeded

theorem describes_after (reached : after? form text = some stage) :
    stage.Describes form text := by
  -- The last character comes off, because a stage knows how many bytes stand before it.
  induction text using List.reverseRecOn generalizing stage with
  | nil => cases reached; exact blanks_nil
  | append_singleton front c ih =>
      rw [after?_concat, Option.bind_eq_some_iff] at reached
      obtain ⟨earlier, reachedFront, taken⟩ := reached
      exact describes_next (ih reachedFront) taken

end Stage

end SignedDifference
