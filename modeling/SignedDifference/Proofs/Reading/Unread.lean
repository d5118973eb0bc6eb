import SignedDifference.Proofs.Reading.Verdict

/-!
# Text that is not read

Reading a text goes through a beginning of it that may be read, whatever stands behind it
(`reach_append`), and looks at one more character before it stops.  So what stands behind the
character of a grammar error has no part in the errors (`errors_of_shared_beginning`).
-/

set_option autoImplicit false

namespace SignedDifference

open Text (byteCount byteCount_append eq_of_byteCount_eq)

variable {form : Form} {text front later : List Char} {reached : Reached} {c : Char}

theorem StoppedAfter.reach_eq (stopped : StoppedAfter form text front reached)
    (rest : reached.rest = c :: later) (other : List Char) :
    reach form 0 .beforeMinuend (front ++ c :: other) =
      ⟨reached.position, reached.stage, c :: other⟩ := by
  have placed : 0 + byteCount front = reached.position := by
    rw [Nat.zero_add, stopped.position_eq]
  rw [reach_append form (c :: other) stopped.after_eq, placed]
  exact reach_of_refused (stopped.refused c later rest) other

/-- Of what stands behind the stop, a verdict looks at one character. -/
theorem Reached.verdict_of_rest (form : Form) (position : Nat) (stage : Stage) (c : Char)
    (later other : List Char) :
    Reached.verdict form ⟨position, stage, c :: later⟩ =
      Reached.verdict form ⟨position, stage, c :: other⟩ :=
  rfl

theorem StoppedAfter.eq_of_reported {errors : List ReadError} {span : Span} {found : Option Char}
    {expected : List Continuation} (stopped : StoppedAfter form text front reached)
    (failed : reached.verdict form = .error errors)
    (reported : .unexpected span found expected ∈ errors) :
    span = reached.span ∧ found = reached.rest.head? ∧ expected = reached.stage.expected form := by
  have notOperand : .unexpected span found expected ∉ reached.settled.errors := by
    intro member
    obtain ⟨_, _, same⟩ := Stage.exists_fault_of_mem_errors member
    simp at same
  rcases stopped.errors_cases failed with ⟨_, rfl, _⟩ | ⟨_, rfl⟩
  · exact absurd reported notOperand
  · have last := List.mem_singleton.mp ((List.mem_append.mp reported).resolve_left notOperand)
    rwa [Reached.grammarError, ReadError.unexpected.injEq] at last

/-- A grammar error at a character of the text is reported, with the same errors before it, for
every text that agrees with this one through the character. -/
theorem errors_of_shared_beginning (form : Form) (text : String) (errors : List ReadError)
    (span : Span) (c : Char) (expected : List Continuation)
    (failed : read form text = .error errors)
    (reported : .unexpected span (some c) expected ∈ errors) :
    ∃ front later, text.toList = front ++ c :: later ∧
      span = ⟨byteCount front, byteCount (front ++ [c])⟩ ∧
      ∀ other : String, front ++ [c] <+: other.toList → read form other = .error errors := by
  obtain ⟨front, stopped⟩ := exists_stopped form text.toList
  rw [read_eq_verdict] at failed
  obtain ⟨isSpan, found, _⟩ := stopped.eq_of_reported failed reported
  obtain ⟨later, rest⟩ := List.head?_eq_some_iff.mp found.symm
  refine ⟨front, later, ?_, ?_, ?_⟩
  · rw [← rest]
    exact stopped.text_eq
  · rw [isSpan, stopped.span_of_cons rest]
  · intro other shared
    obtain ⟨behind, whole⟩ := shared
    rw [List.append_assoc, List.singleton_append] at whole
    have sameText : text.toList = front ++ c :: later := rest ▸ stopped.text_eq
    rw [← failed, read_eq_verdict, ← whole, sameText, stopped.reach_eq rest behind,
      stopped.reach_eq rest later]
    exact Reached.verdict_of_rest form _ _ c behind later

/-- The minuend does not fit and no plus sign may follow it: what stands behind the sign is no part
of the errors, be it nothing or an operand that does not fit either. -/
theorem errors_through_plus_sign :
    read .expression "9223372036854775808 + 1" =
        .error [.outOfRange ⟨0, 19⟩ .integerTooLarge,
          .unexpected ⟨20, 21⟩ (some '+') [.symbol '-']] ∧
      read .expression "9223372036854775808 +" =
        .error [.outOfRange ⟨0, 19⟩ .integerTooLarge,
          .unexpected ⟨20, 21⟩ (some '+') [.symbol '-']] ∧
      read .expression "9223372036854775808 + - 9223372036854775808" =
        .error [.outOfRange ⟨0, 19⟩ .integerTooLarge,
          .unexpected ⟨20, 21⟩ (some '+') [.symbol '-']] := by
  have failed : read .expression "9223372036854775808 + 1" =
      .error [.outOfRange ⟨0, 19⟩ .integerTooLarge,
        .unexpected ⟨20, 21⟩ (some '+') [.symbol '-']] := by
    rw [read_eq_verdict]
    rfl
  obtain ⟨front, later, sameText, isSpan, unread⟩ := errors_of_shared_beginning .expression
    "9223372036854775808 + 1" _ ⟨20, 21⟩ '+' [.symbol '-'] failed (by simp)
  have cut : "9223372036854775808 + 1".toList = "9223372036854775808 ".toList ++ "+ 1".toList := by
    rfl
  have isFront : front = "9223372036854775808 ".toList :=
    eq_of_byteCount_eq (sameText.symm.trans cut) (congrArg Span.start isSpan).symm
  subst isFront
  exact ⟨failed, unread "9223372036854775808 +" (by decide),
    unread "9223372036854775808 + - 9223372036854775808" (by decide)⟩

end SignedDifference
