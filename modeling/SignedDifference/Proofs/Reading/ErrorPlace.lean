import SignedDifference.Proofs.Reading.Verdict

/-!
# The place of a grammar error

A text that lacks the form is refused with a grammar error as the last one, and the error stands
where the longest beginning ends that can still be completed: neither too early, since what stands
before it is viable, nor too late, since the character found there makes it unviable
(`grammarError_ends_longest_viable`).
-/

set_option autoImplicit false

namespace SignedDifference

open Text (byteCount byteCount_append byteCount_toList)

/-- The span starts where the longest viable beginning of the text ends: at the end of the text, or
at the character that cannot follow it. -/
def EndsLongestViable (form : Form) (text : String) (span : Span) (found : Option Char) : Prop :=
  ∃ front rest, text.toList = front ++ rest ∧ form.Viable front ∧ span.start = byteCount front ∧
    match found with
    | none => rest = [] ∧ span = ⟨text.utf8ByteSize, text.utf8ByteSize⟩
    | some c =>
        rest.head? = some c ∧ span.stop = byteCount (front ++ [c]) ∧ ¬ form.Viable (front ++ [c])

theorem StoppedAfter.endsLongestViable {form : Form} {text : String} {front : List Char}
    {reached : Reached} (stopped : StoppedAfter form text.toList front reached) :
    EndsLongestViable form text reached.span reached.rest.head? := by
  refine ⟨front, reached.rest, stopped.text_eq, stopped.viable, ?_⟩
  cases rest : reached.rest with
  | nil =>
      have whole := stopped.text_eq
      rw [rest, List.append_nil] at whole
      have span := stopped.span_of_nil rest
      rw [← whole, byteCount_toList] at span
      exact ⟨by rw [span, ← byteCount_toList, whole], rfl, span⟩
  | cons c later =>
      have span := stopped.span_of_cons rest
      exact ⟨by rw [span], rfl, by rw [span], stopped.not_viable rest⟩

theorem grammarError_ends_longest_viable (form : Form) (text : String) :
    (¬ form.Matches text.toList →
      ∃ earlier span found expected,
        read form text = .error (earlier ++ [.unexpected span found expected]) ∧
          EndsLongestViable form text span found) ∧
    (form.Matches text.toList →
      ∀ errors, read form text = .error errors →
        ∀ error ∈ errors, ∃ span fault, error = .outOfRange span fault) := by
  obtain ⟨front, reached, stopped, verdict⟩ := exists_read_stopped form text
  rw [verdict]
  constructor
  · intro unmatched
    exact ⟨_, _, _, _, stopped.verdict_of_not_matches unmatched, stopped.endsLongestViable⟩
  · intro isMatch errors failed error member
    rcases stopped.errors_cases failed with ⟨_, rfl, _⟩ | ⟨unmatched, _⟩
    · exact Stage.exists_fault_of_mem_errors member
    · exact absurd isMatch unmatched

end SignedDifference
