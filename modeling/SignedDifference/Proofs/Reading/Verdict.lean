import SignedDifference.Proofs.Reading.Parsing
import SignedDifference.Proofs.Reading.Viability

/-!
# What a reading ends with

Reading stops after the longest viable beginning.  If that is a whole text of the form, the verdict
is about the two operands alone (`verdict_of_settles`); otherwise its last error is the grammar
error at the stop (`verdict_of_not_matches`).  So a text is accepted exactly if it leads to a stage
with a result (`read_eq_ok_iff`), which is said of the text itself for both forms
(`parse_eq_ok_iff`, `parseCase_eq_ok_iff`).
-/

set_option autoImplicit false

namespace SignedDifference

open Text (byteCount byteCount_append)

variable {form : Form} {text front : List Char} {reached : Reached}

theorem Reached.start_span (reached : Reached) : reached.span.start = reached.position :=
  Span.start_ofNext reached.position reached.rest

theorem exists_read_stopped (form : Form) (text : String) :
    ∃ front reached, StoppedAfter form text.toList front reached ∧
      read form text = reached.verdict form := by
  obtain ⟨front, stopped⟩ := exists_stopped form text.toList
  exact ⟨front, _, stopped, read_eq_verdict form text⟩

namespace StoppedAfter

theorem span_of_nil (stopped : StoppedAfter form text front reached) (rest : reached.rest = []) :
    reached.span = ⟨byteCount front, byteCount front⟩ := by
  rw [Reached.span, rest, stopped.position_eq]
  rfl

theorem span_of_cons {c : Char} {later : List Char}
    (stopped : StoppedAfter form text front reached) (rest : reached.rest = c :: later) :
    reached.span = ⟨byteCount front, byteCount (front ++ [c])⟩ := by
  rw [Reached.span, rest, stopped.position_eq, byteCount_append]
  rfl

theorem viable (stopped : StoppedAfter form text front reached) : form.Viable front :=
  viable_iff.mpr ⟨reached.stage, stopped.after_eq⟩

theorem not_viable {c : Char} {later : List Char} (stopped : StoppedAfter form text front reached)
    (rest : reached.rest = c :: later) : ¬ form.Viable (front ++ [c]) := by
  intro viable
  obtain ⟨stage, reachedNext⟩ := viable_iff.mp viable
  rw [stopped.after?_eq_none rest] at reachedNext
  simp at reachedNext

theorem settled_eq {stage : Stage} (stopped : StoppedAfter form text front reached)
    (settles : Stage.Settles form front stage) : reached.settled = stage := by
  obtain ⟨raw, reachedFront, ended⟩ := settles
  have same : reached.stage = raw := Option.some.inj (stopped.after_eq.symm.trans reachedFront)
  rw [Reached.settled, stopped.position_eq, same, Stage.settled_eq ended]

theorem describes_settled (stopped : StoppedAfter form text front reached) :
    reached.settled.Describes form front := by
  have described := Stage.describes_after stopped.after_eq
  rw [Reached.settled, stopped.position_eq]
  cases ended : reached.stage.settle? (byteCount front) with
  | none => rwa [Stage.settled_eq_self ended]
  | some settled =>
      rw [Stage.settled_eq ended]
      exact Stage.describes_settle described ended

theorem matches_iff (stopped : StoppedAfter form text front reached) :
    form.Matches text ↔ reached.rest = [] ∧ (reached.settled.result? form).isSome := by
  constructor
  · intro isMatch
    have allRead : reached.rest = [] := by
      cases rest : reached.rest with
      | nil => rfl
      | cons c later =>
          have whole := viable_of_matches isMatch
          rw [stopped.text_eq, rest, ← List.singleton_append, ← List.append_assoc] at whole
          exact absurd (viable_of_append whole) (stopped.not_viable rest)
    refine ⟨allRead, ?_⟩
    rw [stopped.text_eq, allRead, List.append_nil, SignedDifference.matches_iff] at isMatch
    obtain ⟨stage, settles, complete⟩ := isMatch
    rwa [stopped.settled_eq settles]
  · intro whole
    obtain ⟨allRead, complete⟩ := whole
    rw [stopped.text_eq, allRead, List.append_nil, matches_iff_completes]
    exact completes_of_result? stopped.describes_settled complete

theorem verdict_of_not_matches (stopped : StoppedAfter form text front reached)
    (unmatched : ¬ form.Matches text) :
    reached.verdict form = .error (reached.settled.errors ++ [reached.grammarError form]) := by
  rw [stopped.matches_iff] at unmatched
  unfold Reached.verdict
  split
  · rename_i result rest found
    exact absurd ⟨rest, by rw [found]; rfl⟩ unmatched
  · rfl

theorem verdict_of_settles {stage : Stage} {result : Except (List ReadError) form.Result}
    (stopped : StoppedAfter form text front reached) (settles : Stage.Settles form text stage)
    (found : stage.result? form = some result) : reached.verdict form = result := by
  have isMatch : form.Matches text :=
    SignedDifference.matches_iff.mpr ⟨stage, settles, by rw [found]; rfl⟩
  obtain ⟨allRead, _⟩ := stopped.matches_iff.mp isMatch
  have whole := stopped.text_eq
  rw [allRead, List.append_nil] at whole
  rw [whole] at settles
  simp only [Reached.verdict, allRead, stopped.settled_eq settles, found]

end StoppedAfter

theorem Operand.errors_of_pair_eq_error {minuend subtrahend : Operand} {errors : List ReadError}
    (failed : minuend.pair subtrahend = .error errors) :
    errors = minuend.errors ++ subtrahend.errors ∧ errors ≠ [] := by
  unfold Operand.pair at failed
  split at failed
  · simp at failed
  · rename_i notBoth
    obtain rfl := Except.error.inj failed
    refine ⟨rfl, ?_⟩
    intro empty
    rw [List.append_eq_nil_iff, Operand.errors, Operand.errors] at empty
    cases first : minuend.written.denote with
    | error fault => simp [first] at empty
    | ok a =>
        cases second : subtrahend.written.denote with
        | error fault => simp [second] at empty
        | ok b => exact notBoth a b first second

theorem Operand.pair_eq_ok_iff {minuend subtrahend : Operand} {s : Subtraction} :
    minuend.pair subtrahend = .ok s ↔
      minuend.written.denote = .ok s.minuend ∧ subtrahend.written.denote = .ok s.subtrahend := by
  obtain ⟨a, b⟩ := s
  unfold Operand.pair
  cases minuend.written.denote <;> cases subtrahend.written.denote <;> simp

theorem Stage.errors_of_result? {stage : Stage} {errors : List ReadError}
    (found : stage.result? form = some (.error errors)) :
    errors = stage.errors ∧ errors ≠ [] := by
  cases form with
  | expression =>
      cases stage with
      | afterSubtrahend minuend subtrahend =>
          exact Operand.errors_of_pair_eq_error (Option.some.inj found)
      | _ => simp [Stage.result?] at found
  | caseLine =>
      cases stage with
      | finished minuend subtrahend overflow =>
          have mapped := Option.some.inj found
          cases paired : minuend.pair subtrahend with
          | ok s => rw [paired] at mapped; simp [Except.map] at mapped
          | error faults =>
              rw [paired] at mapped
              cases mapped
              exact Operand.errors_of_pair_eq_error paired
      | _ => simp [Stage.result?] at found

theorem Operand.exists_fault_of_mem_errors {operand : Operand} {error : ReadError}
    (member : error ∈ operand.errors) : ∃ span fault, error = .outOfRange span fault := by
  unfold Operand.errors at member
  split at member
  · simp at member
  · exact ⟨_, _, List.mem_singleton.mp member⟩

theorem Stage.exists_fault_of_mem_errors {stage : Stage} {error : ReadError}
    (member : error ∈ stage.errors) : ∃ span fault, error = .outOfRange span fault := by
  cases stage with
  | beforeMinuend | inMinuend => simp [Stage.errors] at member
  | afterMinuend | beforeSubtrahend | inSubtrahend =>
      exact Operand.exists_fault_of_mem_errors member
  | _ =>
      rcases List.mem_append.mp member with inMinuend | inSubtrahend
      · exact Operand.exists_fault_of_mem_errors inMinuend
      · exact Operand.exists_fault_of_mem_errors inSubtrahend

namespace StoppedAfter

/-- The errors are those of the operands, and the grammar error if the text lacks the form. -/
theorem errors_cases {errors : List ReadError} (stopped : StoppedAfter form text front reached)
    (failed : reached.verdict form = .error errors) :
    (form.Matches text ∧ errors = reached.settled.errors ∧ errors ≠ []) ∨
      (¬ form.Matches text ∧
        errors = reached.settled.errors ++ [reached.grammarError form]) := by
  by_cases isMatch : form.Matches text
  · obtain ⟨allRead, complete⟩ := stopped.matches_iff.mp isMatch
    obtain ⟨result, found⟩ := Option.isSome_iff_exists.mp complete
    simp only [Reached.verdict, allRead, found] at failed
    rw [failed] at found
    exact Or.inl ⟨isMatch, Stage.errors_of_result? found⟩
  · rw [stopped.verdict_of_not_matches isMatch] at failed
    exact Or.inr ⟨isMatch, (Except.error.inj failed).symm⟩

end StoppedAfter

/-! ## Accepted readings -/

theorem read_eq_ok_iff {form : Form} {text : String} {result : form.Result} :
    read form text = .ok result ↔
      ∃ stage, Stage.Settles form text.toList stage ∧ stage.result? form = some (.ok result) := by
  obtain ⟨front, reached, stopped, verdict⟩ := exists_read_stopped form text
  rw [verdict]
  constructor
  · intro accepted
    by_cases isMatch : form.Matches text.toList
    · obtain ⟨stage, settles, complete⟩ := matches_iff.mp isMatch
      obtain ⟨found, yields⟩ := Option.isSome_iff_exists.mp complete
      rw [← stopped.verdict_of_settles settles yields, accepted] at yields
      exact ⟨stage, settles, yields⟩
    · rw [stopped.verdict_of_not_matches isMatch] at accepted
      simp at accepted
  · intro readable
    obtain ⟨stage, settles, yields⟩ := readable
    exact stopped.verdict_of_settles settles yields

theorem Stage.Settles.describes {form : Form} {text : List Char} {stage : Stage}
    (settles : Stage.Settles form text stage) : stage.Describes form text := by
  obtain ⟨raw, reached, ended⟩ := settles
  exact Stage.describes_settle (Stage.describes_after reached) ended

def Subtraction.DenotedBy (s : Subtraction) (minuend subtrahend : Operand) : Prop :=
  minuend.written.denote = .ok s.minuend ∧ subtrahend.written.denote = .ok s.subtrahend

theorem parse_eq_ok_iff {text : String} {s : Subtraction} :
    parse text = .ok s ↔
      ∃ minuend subtrahend, EndsSubtrahend minuend subtrahend text.toList ∧
        s.DenotedBy minuend subtrahend := by
  constructor
  · intro accepted
    obtain ⟨stage, settles, yields⟩ := read_eq_ok_iff.mp accepted
    cases stage with
    | afterSubtrahend minuend subtrahend =>
        have paired := Option.some.inj yields
        exact ⟨minuend, subtrahend, settles.describes, Operand.pair_eq_ok_iff.mp paired⟩
    | _ => simp [Stage.result?] at yields
  · intro placed
    obtain ⟨minuend, subtrahend, ends, denoted⟩ := placed
    refine read_eq_ok_iff.mpr ⟨_, Stage.settles_of_endsSubtrahend ends, ?_⟩
    exact congrArg some (Operand.pair_eq_ok_iff.mpr denoted)

theorem parseCase_eq_ok_iff {text : String} {line : CaseLine} :
    parseCase text = .ok line ↔
      ∃ minuend subtrahend,
        EndsExpectation minuend subtrahend line.expectOverflow text.toList ∧
          line.expression.DenotedBy minuend subtrahend := by
  constructor
  · intro accepted
    obtain ⟨stage, settles, yields⟩ := read_eq_ok_iff.mp accepted
    cases stage with
    | finished minuend subtrahend overflow =>
        have mapped := Option.some.inj yields
        cases paired : minuend.pair subtrahend with
        | error faults => simp [paired, Except.map] at mapped
        | ok s =>
            rw [paired] at mapped
            cases mapped
            exact ⟨minuend, subtrahend, settles.describes.2, Operand.pair_eq_ok_iff.mp paired⟩
    | _ => simp [Stage.result?] at yields
  · intro placed
    obtain ⟨minuend, subtrahend, ends, denoted⟩ := placed
    refine read_eq_ok_iff.mpr ⟨_, ⟨_, Stage.after?_of_endsExpectation ends, rfl⟩, ?_⟩
    simp [Stage.result?, Operand.pair_eq_ok_iff.mpr denoted, Except.map]

end SignedDifference
