import SignedDifference.Proofs.Reading.Unread

/-!
# Blanks in front

Reading from a later position takes the same characters and leads to the same stage, with every
place moved along (`next?_moved`, `reach_moved`), and a verdict moves with its stop
(`verdict_moved`).  Blanks in front of a text only set the position where reading begins, so they
move the errors and nothing else (`leading_blanks_move_errors`).
-/

set_option autoImplicit false

namespace SignedDifference

open Text (byteCount byteCount_toList)

/-! ## Moved places -/

def Span.moved (distance : Nat) (span : Span) : Span :=
  ⟨span.start + distance, span.stop + distance⟩

def ReadError.moved (distance : Nat) : ReadError → ReadError
  | .outOfRange span fault => .outOfRange (span.moved distance) fault
  | .unexpected span found expected => .unexpected (span.moved distance) found expected

theorem ReadError.message_moved (distance : Nat) (error : ReadError) :
    (error.moved distance).message = error.message := by
  cases error <;> rfl

theorem ReadError.span_moved (distance : Nat) (error : ReadError) :
    (error.moved distance).span = error.span.moved distance := by
  cases error <;> rfl

namespace Operand

def moved (distance : Nat) (operand : Operand) : Operand :=
  { operand with span := operand.span.moved distance }

variable (distance : Nat)

theorem written_moved (operand : Operand) : (operand.moved distance).written = operand.written :=
  rfl

theorem errors_moved (operand : Operand) :
    (operand.moved distance).errors = operand.errors.map (ReadError.moved distance) := by
  simp only [errors, written_moved]
  cases operand.written.denote <;> rfl

theorem pair_moved (minuend subtrahend : Operand) :
    (minuend.moved distance).pair (subtrahend.moved distance) =
      (minuend.pair subtrahend).mapError (List.map (ReadError.moved distance)) := by
  have joined : (minuend.moved distance).errors ++ (subtrahend.moved distance).errors =
      (minuend.errors ++ subtrahend.errors).map (ReadError.moved distance) := by
    rw [errors_moved, errors_moved, List.map_append]
  simp only [pair, written_moved, joined]
  cases minuend.written.denote with
  | error fault => rfl
  | ok first => cases subtrahend.written.denote <;> rfl

end Operand

namespace Stage

def moved (distance : Nat) : Stage → Stage
  | .beforeMinuend => .beforeMinuend
  | .inMinuend start literal => .inMinuend (start + distance) literal
  | .afterMinuend minuend => .afterMinuend (minuend.moved distance)
  | .beforeSubtrahend minuend => .beforeSubtrahend (minuend.moved distance)
  | .inSubtrahend minuend start literal =>
      .inSubtrahend (minuend.moved distance) (start + distance) literal
  | .afterSubtrahend minuend subtrahend =>
      .afterSubtrahend (minuend.moved distance) (subtrahend.moved distance)
  | .afterEquals minuend subtrahend =>
      .afterEquals (minuend.moved distance) (subtrahend.moved distance)
  | .beforeExpectation minuend subtrahend =>
      .beforeExpectation (minuend.moved distance) (subtrahend.moved distance)
  | .afterO minuend subtrahend => .afterO (minuend.moved distance) (subtrahend.moved distance)
  | .inOverflow minuend subtrahend next rest =>
      .inOverflow (minuend.moved distance) (subtrahend.moved distance) next rest
  | .finished minuend subtrahend overflow =>
      .finished (minuend.moved distance) (subtrahend.moved distance) overflow

variable (distance : Nat) (form : Form) (position : Nat) (c : Char) (stage : Stage)

theorem extend?_moved :
    (stage.moved distance).extend? c = (stage.extend? c).map (moved distance) := by
  cases stage with
  | inMinuend start literal => cases taken : literal.extend? c <;> simp [moved, extend?, taken]
  | inSubtrahend minuend start literal =>
      cases taken : literal.extend? c <;> simp [moved, extend?, taken]
  | _ => rfl

theorem settle?_moved :
    (stage.moved distance).settle? (position + distance) =
      (stage.settle? position).map (moved distance) := by
  cases stage with
  | inMinuend start literal =>
      cases ended : literal.complete? <;> simp [moved, settle?, ended, Operand.moved, Span.moved]
  | inSubtrahend minuend start literal =>
      cases ended : literal.complete? <;> simp [moved, settle?, ended, Operand.moved, Span.moved]
  | _ => rfl

theorem proceed?_moved :
    (stage.moved distance).proceed? form (position + distance) c =
      (stage.proceed? form position c).map (moved distance) := by
  cases stage with
  | beforeMinuend | beforeSubtrahend minuend =>
      simp only [moved, proceed?]
      split
      · rfl
      · cases PartialLiteral.begin? c <;> rfl
  | inMinuend start literal | inSubtrahend minuend start literal => rfl
  | inOverflow minuend subtrahend next rest =>
      simp only [moved, proceed?]
      split
      · cases rest <;> rfl
      · rfl
  | _ =>
      simp only [moved, proceed?]
      repeat' split
      all_goals rfl

theorem next?_moved :
    (stage.moved distance).next? form (position + distance) c =
      (stage.next? form position c).map (moved distance) := by
  simp only [next?, extend?_moved, settle?_moved]
  cases stage.extend? c with
  | some extended => rfl
  | none =>
      cases stage.settle? position with
      | none => rfl
      | some settled => exact proceed?_moved distance form position c settled

theorem expected_moved : (stage.moved distance).expected form = stage.expected form := by
  cases stage <;> rfl

theorem errors_moved :
    (stage.moved distance).errors = stage.errors.map (ReadError.moved distance) := by
  cases stage <;> simp [moved, errors, Operand.errors_moved]

theorem result?_moved :
    (stage.moved distance).result? form =
      (stage.result? form).map (Except.mapError (List.map (ReadError.moved distance))) := by
  cases form with
  | expression =>
      cases stage with
      | afterSubtrahend minuend subtrahend => exact congrArg some (Operand.pair_moved _ _ _)
      | _ => rfl
  | caseLine =>
      cases stage with
      | finished minuend subtrahend overflow =>
          simp only [moved, result?, Operand.pair_moved]
          cases minuend.pair subtrahend <;> rfl
      | _ => rfl

end Stage

/-! ## Moved readings -/

namespace Reached

def moved (distance : Nat) (reached : Reached) : Reached :=
  ⟨reached.position + distance, reached.stage.moved distance, reached.rest⟩

variable (distance : Nat) (form : Form) (reached : Reached)

theorem rest_moved : (reached.moved distance).rest = reached.rest :=
  rfl

theorem settled_moved : (reached.moved distance).settled = reached.settled.moved distance := by
  simp only [settled, Stage.settled, moved, Stage.settle?_moved]
  cases reached.stage.settle? reached.position <;> rfl

theorem grammarError_moved :
    (reached.moved distance).grammarError form = (reached.grammarError form).moved distance := by
  obtain ⟨position, stage, rest⟩ := reached
  simp only [grammarError, moved, span, Stage.expected_moved, ReadError.moved]
  cases rest with
  | nil => rfl
  | cons c later => simp only [Span.ofNext, Span.moved, Nat.add_right_comm]

theorem verdict_moved :
    (reached.moved distance).verdict form =
      (reached.verdict form).mapError (List.map (ReadError.moved distance)) := by
  have joined : (reached.settled.moved distance).errors ++
      [(reached.grammarError form).moved distance] =
        (reached.settled.errors ++ [reached.grammarError form]).map (ReadError.moved distance) := by
    rw [Stage.errors_moved, List.map_append, List.map_singleton]
  simp only [verdict, rest_moved, settled_moved, grammarError_moved, Stage.result?_moved, joined]
  cases reached.rest with
  | cons c later => rfl
  | nil => cases reached.settled.result? form <;> rfl

end Reached

theorem reach_moved (distance : Nat) (form : Form) :
    ∀ (text : List Char) (position : Nat) (stage : Stage),
      reach form (position + distance) (stage.moved distance) text =
        (reach form position stage text).moved distance := by
  intro text
  induction text with
  | nil => intro position stage; rfl
  | cons c rest ih =>
      intro position stage
      simp only [reach, Stage.next?_moved]
      cases stage.next? form position c with
      | none => rfl
      | some next => rw [Option.map_some, Nat.add_right_comm]; exact ih _ next

/-! ## Blanks before the minuend -/

theorem reach_of_blanks (form : Form) {gap : List Char} (blanks : Blanks gap) (text : List Char) :
    reach form 0 .beforeMinuend (gap ++ text) =
      (reach form 0 .beforeMinuend text).moved (byteCount gap) := by
  have ran : Stage.run form 0 .beforeMinuend gap = some .beforeMinuend :=
    Stage.after?_of_blanks blanks
  rw [reach_append form text ran]
  exact reach_moved (byteCount gap) form text 0 .beforeMinuend

theorem read_of_blanks (form : Form) {gap : String} (blanks : Blanks gap.toList) (text : String) :
    read form (gap ++ text) =
      (read form text).mapError (List.map (ReadError.moved gap.utf8ByteSize)) := by
  rw [read_eq_verdict, read_eq_verdict, String.toList_append, reach_of_blanks form blanks,
    Reached.verdict_moved, byteCount_toList]

/-- Blanks in front of a text do not change what it is read as.  If it is refused, they move the
errors by the bytes that they take, and leave their order and their messages as they are. -/
theorem leading_blanks_move_errors (form : Form) (gap text : String) (blanks : Blanks gap.toList) :
    (∀ result, read form (gap ++ text) = .ok result ↔ read form text = .ok result) ∧
      (∀ errors, read form text = .error errors →
        read form (gap ++ text) = .error (errors.map (ReadError.moved gap.utf8ByteSize))) ∧
      ∀ error : ReadError, (error.moved gap.utf8ByteSize).message = error.message ∧
        (error.moved gap.utf8ByteSize).span =
          ⟨error.span.start + gap.utf8ByteSize, error.span.stop + gap.utf8ByteSize⟩ := by
  have moved := read_of_blanks form blanks text
  refine ⟨?_, ?_, ?_⟩
  · intro result
    rw [moved]
    cases read form text with
    | ok found => exact Iff.rfl
    | error errors => simp [Except.mapError]
  · intro errors failed
    rw [moved, failed]
    rfl
  · intro error
    exact ⟨error.message_moved _, error.span_moved _⟩

/-- The two blanks take four bytes, and both errors stand four bytes further on. -/
theorem errors_behind_wide_blanks :
    Blanks "\u3000\t".toList ∧
      read .caseLine "-9223372036854775809 - x" =
        .error [.outOfRange ⟨0, 20⟩ .integerTooSmall,
          .unexpected ⟨23, 24⟩ (some 'x') [.operand]] ∧
      read .caseLine "\u3000\t-9223372036854775809 - x" =
        .error [.outOfRange ⟨4, 24⟩ .integerTooSmall,
          .unexpected ⟨27, 28⟩ (some 'x') [.operand]] := by
  have blanks : Blanks "\u3000\t".toList := by
    intro c member
    simp only [String.reduceToList, List.mem_cons, List.not_mem_nil, or_false] at member
    rcases member with rfl | rfl <;> decide
  have failed : read .caseLine "-9223372036854775809 - x" =
      .error [.outOfRange ⟨0, 20⟩ .integerTooSmall,
        .unexpected ⟨23, 24⟩ (some 'x') [.operand]] := by
    rw [read_eq_verdict]
    rfl
  have shifted := (leading_blanks_move_errors .caseLine "\u3000\t" _ blanks).2.1 _ failed
  exact ⟨blanks, failed, shifted⟩

end SignedDifference
