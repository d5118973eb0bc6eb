import SignedDifference.Proofs.Reading.Following
import SignedDifference.Proofs.Reading.LiteralParser
import SignedDifference.Reading

/-!
# Parsing stage by stage

The parser of a form comes to what the reader comes to that goes from stage to stage
(`read_eq_verdict`).  The parsers of the operands, the arrow and the expectation follow the reader
one after another, but for a bit pattern without digits.  The parser has given up such a pattern
and stands before its mark (`Stuck`), where nothing of what it goes on to try can succeed.
-/

set_option autoImplicit false

namespace SignedDifference

open Text (byteCount byteCount_pos byteCount_lt_append isBlank)

variable {α : Type} {form : Form} {final : Reached} {scan after : Scan} {raw stage : Stage}
  {noted : List Continuation}

/-! ## Operands -/

/-- What the stages around an operand expect, and the faults that they know of. -/
structure Stage.OperandStages (form : Form) (before : Stage)
    (within : Nat → PartialLiteral → Stage) (ended : Operand → Stage) : Prop
    extends Stage.AroundOperand form before within ended where
  waits : Stage.TakesBlanks form before
  eq_before : ∀ {raw : Stage} {position : Nat}, raw.settle? position = some before → raw = before
  unbegun : ∀ {position c}, isBlank c = false → PartialLiteral.begin? c = none →
    before.proceed? form position c = none
  expected_before : before.expected form = [.operand]
  expected_within : ∀ start literal operand, (within start literal).expected form =
    literal.continuations ++ if literal.complete?.isSome then (ended operand).expected form else []
  unfinished : before.result? form = none
  unfinished_within : ∀ start literal, (within start literal).result? form = none
  errors_within : ∀ start literal, (within start literal).errors = before.errors
  errors_ended : ∀ operand, (ended operand).errors = before.errors ++ operand.errors

namespace Stage

theorem minuendStages (form : Form) :
    OperandStages form .beforeMinuend .inMinuend .afterMinuend where
  toAroundOperand := aroundMinuend form
  waits := takesBlanks rfl
  eq_before {raw position} ended := by
    cases raw <;> simp [settle?] at ended ⊢
  unbegun token none := by simp [proceed?, token, none]
  expected_before := rfl
  expected_within _ _ _ := rfl
  unfinished := by cases form <;> rfl
  unfinished_within _ _ := by cases form <;> rfl
  errors_within _ _ := rfl
  errors_ended _ := rfl

theorem subtrahendStages (form : Form) (minuend : Operand) :
    OperandStages form (.beforeSubtrahend minuend) (.inSubtrahend minuend)
      (.afterSubtrahend minuend) where
  toAroundOperand := aroundSubtrahend form minuend
  waits := takesBlanks rfl
  eq_before {raw position} ended := by
    cases raw <;> simp [settle?] at ended ⊢
    exact ended
  unbegun token none := by simp [proceed?, token, none]
  expected_before := rfl
  expected_within _ _ _ := rfl
  unfinished := by cases form <;> rfl
  unfinished_within _ _ := by cases form <;> rfl
  errors_within _ _ := rfl
  errors_ended _ := rfl

end Stage

/-- The scan stands before the mark of a bit pattern without digits, and the refusal behind the mark
is the last error of the reader.  Nothing that may follow an operand takes the mark. -/
structure Stuck (form : Form) (final : Reached) (scan : Scan) : Prop where
  atMark : scan.AtMark
  refused : ∃ refusal, scan.furthest = some refusal ∧ scan.position < refusal.span.start ∧
    final.verdict form = .error (scan.faults ++ [refusal.error])

namespace Stuck

theorem atToken (stuck : Stuck form final scan) : scan.AtToken := by
  obtain ⟨mark, later, marked, rest_eq⟩ := stuck.atMark
  intro c found
  rw [rest_eq] at found
  cases found
  rcases marked with rfl | rfl <;> decide

theorem fails_refuse (stuck : Stuck form final scan) (expected : Continuation) :
    Agrees form final (fun (_ : α) _ => False) (none, scan.refuse expected) := by
  obtain ⟨refusal, furthest_eq, beyond, verdict⟩ := stuck.refused
  obtain ⟨position, rest, furthest, faults⟩ := scan
  cases furthest_eq
  rw [Scan.refuse_of_beyond expected beyond]
  exact verdict

theorem symbol_fails {c : Char} (stuck : Stuck form final scan) (other : c ≠ 'x' ∧ c ≠ 'X') :
    Agrees form final (fun _ _ => False) (Parser.symbol c scan) := by
  have refused : scan.rest.head? ≠ some c := by
    obtain ⟨mark, later, marked, rest_eq⟩ := stuck.atMark
    rw [rest_eq]
    rintro found
    cases found
    rcases marked with rfl | rfl
    · exact other.1 rfl
    · exact other.2 rfl
  rw [show Parser.symbol c scan = (none, scan.refuse (.symbol c)) from Parser.symbol_of_ne refused]
  exact stuck.fails_refuse _

theorem endOfInput_fails (stuck : Stuck form final scan) :
    Agrees form final (fun _ _ => False) (Parser.endOfInput scan) := by
  have refused := stuck.fails_refuse (α := Unit) .endOfInput
  obtain ⟨mark, later, _, rest_eq⟩ := stuck.atMark
  obtain ⟨position, rest, furthest, faults⟩ := scan
  cases rest_eq
  exact refused

theorem padded_fails {parser : Parser α} (stuck : Stuck form final scan)
    (fails : Agrees form final (fun _ _ => False) (parser scan)) :
    Agrees form final (fun _ _ => False) (Parser.padded parser scan) := by
  rw [Parser.padded_apply, Parser.skip_of_atToken stuck.atToken]
  cases outcome : parser scan with
  | mk result after =>
      rw [outcome] at fails
      cases result with
      | none => exact fails
      | some a => exact False.elim fails

end Stuck

/-- Behind an operand and the blanks after it, or stuck at a mark. -/
def BehindOperand (form : Form) (final : Reached) (ended : Operand → Stage) (value : Literal)
    (scan : Scan) : Prop :=
  (∃ operand raw noted, value = operand.written.literal ∧
    Follows form final scan raw (ended operand) noted ∧ scan.AtToken) ∨ Stuck form final scan

section Operand

variable {before : Stage} {within : Nat → PartialLiteral → Stage} {ended : Operand → Stage}
  {position : Nat} {rest token : List Char} {literal : PartialLiteral} {written : WrittenLiteral}

theorem Stage.OperandStages.follows (stages : Stage.OperandStages form before within ended)
    (reaches : reach form position before (token ++ after.rest) = final)
    (spelled : written.SpelledBy token) (placed : after.position = position + byteCount token)
    (literalEnded : ∀ c, after.rest.head? = some c →
      PartialLiteral.extendWhole? c written = none)
    (recorded : after.Noted (PartialLiteral.whole written).continuations)
    (faults_eq : after.faults = before.errors ++
      (Operand.mk ⟨position, after.position⟩ written).errors) :
    Follows form final after (within position (.whole written))
      (ended ⟨⟨position, after.position⟩, written⟩)
      (PartialLiteral.whole written).continuations where
  reaches := by
    have stands : (PartialLiteral.whole written).StandsFor token := spelled
    rw [← reaches, placed, reach_append form after.rest (stages.run_token position stands)]
  settles := stages.settle_eq position (.whole written) after.position
  ended c found := by
    rw [stages.extends_eq, PartialLiteral.extend?, literalEnded c found, Option.map_none]
  expected_eq := stages.expected_within position (.whole written) _
  noted := recorded
  faults_eq := by rw [stages.errors_ended, faults_eq]

theorem Stage.OperandStages.verdict_of_broken
    (stages : Stage.OperandStages form before within ended) (position : Nat)
    (stands : literal.StandsFor token)
    (incomplete : literal.complete? = none)
    (literalEnded : ∀ c, rest.head? = some c → literal.extend? c = none) :
    (reach form position before (token ++ rest)).verdict form =
      .error (before.errors ++
        [(Refusal.before (position + byteCount token) rest literal.continuations).error]) := by
  have settled : (within position literal).settle? (position + byteCount token) = none := by
    rw [stages.settle_eq, incomplete, Option.map_none]
  rw [verdict_of_run (stages.run_token position stands)]
  · rw [Stage.settled_eq_self settled, stages.errors_within,
      stages.expected_within _ _ ⟨⟨0, 0⟩, .min⟩, incomplete]
    simp
  · intro c found
    rw [Stage.next?, stages.extends_eq, literalEnded c found, Option.map_none]
    simp only [settled, Option.bind_none]
  · rw [Stage.settled_eq_self settled]
    exact stages.unfinished_within position literal

theorem Follows.operand (stages : Stage.OperandStages form before within ended)
    (follows : Follows form final scan raw before noted) (atToken : scan.AtToken) :
    Agrees form final (BehindOperand form final ended) (Parser.operand scan) := by
  rw [stages.eq_before follows.settles] at follows
  obtain rfl : noted = [] := by simpa using follows.expected_eq
  obtain ⟨position, text, furthest, faults⟩ := scan
  have reaches := follows.reaches
  have behind : Refusal.Behind furthest position := follows.noted
  have known : faults = before.errors := follows.faults_eq
  have fresh : Scan.AtToken ⟨position, text, none, faults⟩ := atToken
  have yields := Parser.literal_yields position text faults
  generalize parsed : Parser.literal ⟨position, text, none, faults⟩ = outcome at yields
  cases yields with
  | @refused after expected unbegun recorded faultless =>
      have refused : ∀ c, text.head? = some c → before.proceed? form position c = none :=
        fun c found => stages.unbegun (atToken c found) (unbegun c found)
      have verdict := follows.verdict_of_refused refused fun _ => stages.unfinished
      rw [stages.expected_before] at verdict
      rw [Parser.operand, Parser.labelled_padded fresh parsed, recorded,
        behind.merge_label _ (Nat.le_refl position), if_pos rfl]
      simpa [Agrees, faultless] using verdict
  | @whole token written after text_eq spelled literalEnded placed recorded faults_eq =>
      have stands : (PartialLiteral.whole written).StandsFor token := spelled
      have further : position < after.position := by
        rw [placed]
        exact Nat.lt_add_of_pos_right (byteCount_pos stands.nonempty)
      rw [text_eq] at reaches
      rw [known] at faults_eq
      have literalFollows :=
        (stages.follows reaches spelled placed literalEnded recorded faults_eq).label
          .operand behind further
      obtain ⟨raw, noted, skipped, atToken⟩ := literalFollows.skip_blanks (stages.blanks _)
      rw [Parser.operand, Parser.labelled_padded fresh parsed]
      exact Or.inl ⟨_, raw, noted, rfl, skipped, atToken⟩
  | @broken token rest literal result after text_eq stands incomplete literalEnded recorded
      faultless result_eq =>
      have further : position + byteCount token ≠ position :=
        Nat.ne_of_gt (Nat.lt_add_of_pos_right (byteCount_pos stands.nonempty))
      rw [text_eq] at reaches
      have verdict := stages.verdict_of_broken position stands incomplete literalEnded
      rw [reaches, ← known] at verdict
      rw [Parser.operand, Parser.labelled_padded fresh parsed, recorded,
        behind.merge_label _ (Nat.le_add_right _ _), if_neg further]
      cases result with
      | none => simpa [Agrees, faultless] using verdict
      | some value =>
          obtain ⟨short, atMark⟩ := result_eq.resolve_left (by simp)
          have stuck : Stuck form final
              { after with
                furthest :=
                  some (.before (position + byteCount token) rest literal.continuations) } :=
            ⟨atMark, _, rfl, by rwa [Refusal.start_before], by rw [faultless]; exact verdict⟩
          have skipped := Parser.skip_of_atToken stuck.atToken
          exact Or.inr (by rw [← skipped] at stuck; exact stuck)

end Operand

/-! ## Expressions -/

def BehindExpression (form : Form) (final : Reached) (value : Subtraction) (scan : Scan) : Prop :=
  (∃ minuend subtrahend raw noted,
    value = ⟨minuend.written.literal, subtrahend.written.literal⟩ ∧
      Follows form final scan raw (.afterSubtrahend minuend subtrahend) noted ∧ scan.AtToken) ∨
    Stuck form final scan

namespace Follows

variable {minuend subtrahend : Operand}

theorem minus (follows : Follows form final scan raw (.afterMinuend minuend) noted) :
    Agrees form final
      (fun _ after => ∃ raw noted,
        Follows form final after raw (.beforeSubtrahend minuend) noted ∧ after.AtToken)
      (Parser.padded (Parser.symbol '-') scan) := by
  apply follows.padded (fun _ after => Follows form final after _ (.beforeSubtrahend minuend) [])
    (Stage.takesBlanks rfl)
  · intro scan raw noted follows atToken
    apply follows.symbol rfl (fun _ => rfl) _ (by cases form <;> rfl) (fun _ => rfl) rfl
    intro d found other
    simp [Stage.proceed?, atToken d found, other]
  · intro _ after follows
    exact follows.skip_blanks (Stage.subtrahendStages form minuend).waits

theorem subtraction (follows : Follows form final scan raw .beforeMinuend noted) :
    Agrees form final (BehindExpression form final) (Parser.subtraction scan) := by
  apply follows.padded (BehindExpression form final) (Stage.minuendStages form).waits
  · intro scan raw noted follows atToken
    apply (follows.operand (Stage.minuendStages form) atToken).bind
    rintro _ after (⟨minuend, raw, noted, rfl, follows, _⟩ | stuck)
    · apply follows.minus.bind
      intro _ after behindMinus
      obtain ⟨raw, noted, follows, atToken⟩ := behindMinus
      apply (follows.operand (Stage.subtrahendStages form minuend) atToken).bind
      rintro _ after (⟨subtrahend, raw, noted, rfl, follows, atToken⟩ | stuck)
      · exact Or.inl ⟨minuend, subtrahend, raw, noted, rfl, follows, atToken⟩
      · exact Or.inr stuck
    · exact (stuck.padded_fails (stuck.symbol_fails (by decide))).bind_of_fails
  · rintro s after (⟨minuend, subtrahend, raw, noted, rfl, follows, atToken⟩ | stuck)
    · rw [Parser.skip_of_atToken atToken]
      exact Or.inl ⟨minuend, subtrahend, raw, noted, rfl, follows, atToken⟩
    · rw [Parser.skip_of_atToken stuck.atToken]
      exact Or.inr stuck

theorem endOfInput (follows : Follows form final scan raw stage noted)
    (expects : stage.expected form = [.endOfInput])
    (refused : ∀ c, scan.rest.head? = some c → stage.proceed? form scan.position c = none)
    {result : Except (List ReadError) form.Result} (complete : stage.result? form = some result) :
    Agrees form final (fun _ after => after.faults = stage.errors ∧ final.verdict form = result)
      (Parser.endOfInput scan) := by
  obtain ⟨position, rest, furthest, faults⟩ := scan
  cases rest with
  | nil =>
      refine ⟨follows.faults_eq, ?_⟩
      rw [← follows.reaches]
      simp only [reach, Reached.verdict, Reached.settled, Stage.settled_eq follows.settles,
        complete]
  | cons c later =>
      exact follows.agrees_refuse expects refused fun empty =>
        absurd empty (List.cons_ne_nil c later)

end Follows

/-! ## Expectations -/

theorem Stage.run_inOverflow {minuend subtrahend : Operand} {c : Char} {back : List Char} :
    ∀ {front rest : List Char} {d : Char} {position : Nat}, d :: rest = front ++ c :: back →
      run .caseLine position (.inOverflow minuend subtrahend d rest) front =
        some (.inOverflow minuend subtrahend c back) := by
  intro front
  induction front with
  | nil =>
      intro rest d position same
      cases same
      rfl
  | cons e front ih =>
      intro rest d position same
      obtain ⟨rfl, rest_eq⟩ := List.cons.inj same
      cases rest with
      | nil => exact absurd rest_eq.symm (by simp)
      | cons letter later => simpa [run, next?, extend?, settle?, proceed?] using ih rest_eq

theorem word_cases (letters text : List Char) :
    (∃ rest, text = letters ++ rest) ∨
      ∃ front c back rest, letters = front ++ c :: back ∧ text = front ++ rest ∧
        rest.head? ≠ some c := by
  induction letters generalizing text with
  | nil => exact Or.inl ⟨text, rfl⟩
  | cons c letters ih =>
      by_cases found : text.head? = some c
      · obtain ⟨later, rfl⟩ := List.head?_eq_some_iff.mp found
        rcases ih later with ⟨rest, rfl⟩ | ⟨front, d, back, rest, rfl, rfl, other⟩
        · exact Or.inl ⟨rest, rfl⟩
        · exact Or.inr ⟨c :: front, d, back, rest, rfl, rfl, other⟩
      · exact Or.inr ⟨[], c, letters, text, rfl, rfl, found⟩

def BehindExpectation (final : Reached) (minuend subtrahend : Operand) (overflow : Bool)
    (scan : Scan) : Prop :=
  ∃ raw noted,
    Follows .caseLine final scan raw (.finished minuend subtrahend overflow) noted ∧ scan.AtToken

section Expectation

variable {minuend subtrahend : Operand} {position : Nat} {front rest : List Char}
  {furthest inner : Option Refusal} {faults : List ReadError} {overflow : Bool}
  (follows : Follows .caseLine final ⟨position, front ++ rest, furthest, faults⟩
    (.beforeExpectation minuend subtrahend) (.beforeExpectation minuend subtrahend) [])
  (atToken : Scan.AtToken ⟨position, front ++ rest, none, faults⟩)
include follows atToken

theorem Follows.expectation_of_some
    (parsed : Parser.expectationWord ⟨position, front ++ rest, none, faults⟩ =
      (some overflow, ⟨position + byteCount front, rest, inner, faults⟩))
    (ran : Stage.run .caseLine position (.beforeExpectation minuend subtrahend) front =
      some (.finished minuend subtrahend overflow))
    (behind : Refusal.Behind inner (position + byteCount front)) (taken : 0 < byteCount front) :
    Agrees .caseLine final (BehindExpectation final minuend subtrahend)
      (Parser.expectation ⟨position, front ++ rest, furthest, faults⟩) := by
  have word : Follows .caseLine final ⟨position + byteCount front, rest, inner, faults⟩
      (.finished minuend subtrahend overflow) (.finished minuend subtrahend overflow) [] :=
    { reaches := by rw [← follows.reaches, reach_append .caseLine rest ran]
      settles := rfl
      ended := fun _ _ => rfl
      expected_eq := rfl
      noted := behind
      faults_eq := follows.faults_eq }
  have labelled := word.label .expectation follows.noted (Nat.lt_add_of_pos_right taken)
  rw [Parser.expectation, Parser.labelled_padded atToken parsed]
  exact labelled.skip_blanks (Stage.takesBlanks rfl)

theorem Follows.expectation_of_none (settled : ∀ position, stage.settle? position = some stage)
    (parsed : Parser.expectationWord ⟨position, front ++ rest, none, faults⟩ = (none, after))
    (recorded : after.furthest =
      some (.before (position + byteCount front) rest (stage.expected .caseLine)))
    (faultless : after.faults = faults)
    (ran : Stage.run .caseLine position (.beforeExpectation minuend subtrahend) front =
      some stage)
    (refused : ∀ c position, rest.head? = some c → stage.proceed? .caseLine position c = none)
    (unfinished : stage.result? .caseLine = none)
    (same : stage.errors = minuend.errors ++ subtrahend.errors) (taken : 0 < byteCount front) :
    Agrees .caseLine final (BehindExpectation final minuend subtrahend)
      (Parser.expectation ⟨position, front ++ rest, furthest, faults⟩) := by
  have further : position + byteCount front ≠ position :=
    Nat.ne_of_gt (Nat.lt_add_of_pos_right taken)
  have behind : Refusal.Behind furthest position := follows.noted
  have known : faults = minuend.errors ++ subtrahend.errors := follows.faults_eq
  rw [Parser.expectation, Parser.labelled_padded atToken parsed, recorded,
    behind.merge_label _ (Nat.le_add_right _ _), if_neg further]
  rw [Agrees, ← follows.reaches, verdict_of_run ran]
  · simp [Stage.settled_eq (settled _), same, known, faultless]
  · intro c found
    rw [Stage.next?, Stage.extend?_of_settled settled]
    simp only [settled, Option.bind_some, refused c _ found]
  · rwa [Stage.settled_eq (settled _)]

end Expectation

namespace Parser

variable {failed : Scan} {position : Nat} {front rest : List Char} {faults : List ReadError}
  {c : Char}

theorem expectationWord_of_ok
    (longer : word ['o', 'v', 'e', 'r', 'f', 'l', 'o', 'w'] scan = (none, failed))
    (shorter : word ['o', 'k'] { scan with furthest := failed.furthest } = (some (), after)) :
    expectationWord scan = (some false, after) := by
  simp only [expectationWord, orElse_apply, bind_apply, longer, shorter, pure_apply]

theorem expectationWord_of_none
    (longer : word ['o', 'v', 'e', 'r', 'f', 'l', 'o', 'w'] scan = (none, failed))
    (shorter : word ['o', 'k'] { scan with furthest := failed.furthest } = (none, after)) :
    expectationWord scan = (none, after) := by
  simp only [expectationWord, orElse_apply, bind_apply, longer, shorter]

theorem expectationWord_overflow :
    expectationWord ⟨position, ['o', 'v', 'e', 'r', 'f', 'l', 'o', 'w'] ++ rest, none, faults⟩ =
      (some true,
        ⟨position + byteCount ['o', 'v', 'e', 'r', 'f', 'l', 'o', 'w'], rest, none, faults⟩) := by
  simp only [expectationWord, orElse_apply, bind_apply, word_append, pure_apply]

theorem expectationWord_ok :
    expectationWord ⟨position, ['o', 'k'] ++ rest, none, faults⟩ =
      (some false, ⟨position + byteCount ['o', 'k'], rest,
        some (.before (position + byteCount ['o']) ('k' :: rest) [.symbol 'v']), faults⟩) :=
  expectationWord_of_ok (word_of_ne _ _ _ _ ['o'] _ (by simp)) (word_append _ _ _ _ ['o', 'k'])

theorem expectationWord_of_not_o (other : rest.head? ≠ some 'o') :
    expectationWord ⟨position, rest, none, faults⟩ =
      (none, ⟨position, rest, some (.before position rest [.symbol 'o']), faults⟩) := by
  have shorter := word_of_ne position _ (some (.before position rest [.symbol 'o'])) faults [] ['k']
    other
  rw [byteCount, Nat.add_zero, Scan.refuse_before] at shorter
  exact expectationWord_of_none (word_of_ne _ _ _ _ [] _ other) shorter

theorem expectationWord_of_o (notV : rest.head? ≠ some 'v') (notK : rest.head? ≠ some 'k') :
    expectationWord ⟨position, ['o'] ++ rest, none, faults⟩ =
      (none, ⟨position + byteCount ['o'], rest,
        some (.before (position + byteCount ['o']) rest [.symbol 'v', .symbol 'k']), faults⟩) := by
  have shorter := word_of_ne position _
    (some (.before (position + byteCount ['o']) rest [.symbol 'v'])) faults ['o'] [] notK
  rw [Scan.refuse_before] at shorter
  exact expectationWord_of_none (word_of_ne _ _ _ _ ['o'] _ notV) shorter

theorem expectationWord_of_ov (position : Nat) (faults : List ReadError) {back : List Char}
    (letters : ['e', 'r', 'f', 'l', 'o', 'w'] = front ++ c :: back) (other : rest.head? ≠ some c) :
    ∃ after, expectationWord ⟨position, 'o' :: 'v' :: front ++ rest, none, faults⟩ =
        (none, after) ∧
      after.furthest =
        some (.before (position + byteCount ('o' :: 'v' :: front)) rest [.symbol c]) ∧
      after.faults = faults := by
  have further : position + byteCount ['o'] < position + byteCount ('o' :: 'v' :: front) :=
    Nat.add_lt_add_left (byteCount_lt_append ['o'] (List.cons_ne_nil 'v' front)) position
  have notK : ('v' :: front ++ rest).head? ≠ some 'k' := by simp
  have longer := word_of_ne position _ none faults ('o' :: 'v' :: front) back other
  have shorter := word_of_ne position _
    (some (.before (position + byteCount ('o' :: 'v' :: front)) rest [.symbol c])) faults ['o'] []
    notK
  rw [Scan.refuse_of_beyond _ (by rwa [Refusal.start_before])] at shorter
  rw [List.cons_append, List.cons_append, ← letters] at longer
  exact ⟨_, expectationWord_of_none longer shorter, rfl, rfl⟩

end Parser

namespace Follows

variable {minuend subtrahend : Operand}

theorem expectation
    (follows : Follows .caseLine final scan raw (.beforeExpectation minuend subtrahend) noted)
    (atToken : scan.AtToken) :
    Agrees .caseLine final (BehindExpectation final minuend subtrahend)
      (Parser.expectation scan) := by
  have raw_eq : raw = .beforeExpectation minuend subtrahend := by
    have settles := follows.settles
    cases raw <;> simp [Stage.settle?] at settles ⊢
    exact settles
  rw [raw_eq] at follows
  obtain rfl : noted = [] := by simpa using follows.expected_eq
  obtain ⟨position, text, furthest, faults⟩ := scan
  have behind : Refusal.Behind furthest position := follows.noted
  have fresh : Scan.AtToken ⟨position, text, none, faults⟩ := atToken
  rcases word_cases ['o', 'v', 'e', 'r', 'f', 'l', 'o', 'w'] text with
    ⟨rest, rfl⟩ | ⟨front, c, back, rest, letters, rfl, other⟩
  · exact follows.expectation_of_some fresh Parser.expectationWord_overflow rfl
      (Refusal.behind_none _) (by decide)
  · rcases front with _ | ⟨first, _ | ⟨second, front⟩⟩
    · obtain ⟨rfl, -⟩ := List.cons.inj letters
      have refused : ∀ d, rest.head? = some d →
          (Stage.beforeExpectation minuend subtrahend).proceed? .caseLine position d = none := by
        intro d found
        have notO : ¬ d = 'o' := fun same => other (same ▸ found)
        simp [Stage.proceed?, atToken d found, notO]
      have verdict := follows.verdict_of_refused refused fun _ => rfl
      rw [Parser.expectation, Parser.labelled_padded fresh (Parser.expectationWord_of_not_o other),
        behind.merge_label _ (Nat.le_refl position), if_pos rfl]
      exact verdict
    · obtain ⟨rfl, tail⟩ := List.cons.inj letters
      obtain ⟨rfl, -⟩ := List.cons.inj tail
      by_cases shorter : rest.head? = some 'k'
      · obtain ⟨later, rfl⟩ := List.head?_eq_some_iff.mp shorter
        have split : ['o'] ++ 'k' :: later = ['o', 'k'] ++ later := rfl
        rw [split] at follows fresh ⊢
        exact follows.expectation_of_some fresh Parser.expectationWord_ok rfl
          (Refusal.behind_before (Nat.add_lt_add_left (by decide) position)) (by decide)
      · have settled : ∀ place, (Stage.afterO minuend subtrahend).settle? place = some _ :=
          fun _ => rfl
        apply follows.expectation_of_none fresh settled
          (Parser.expectationWord_of_o other shorter) rfl rfl rfl _ rfl rfl (by decide)
        intro d place found
        have notV : ¬ d = 'v' := fun same => other (same ▸ found)
        have notK : ¬ d = 'k' := fun same => shorter (same ▸ found)
        simp [Stage.proceed?, notV, notK]
    · obtain ⟨rfl, tail⟩ := List.cons.inj letters
      obtain ⟨rfl, later⟩ := List.cons.inj tail
      obtain ⟨after, parsed, recorded, faultless⟩ :=
        Parser.expectationWord_of_ov position faults later other
      have settled : ∀ place,
          (Stage.inOverflow minuend subtrahend c back).settle? place = some _ := fun _ => rfl
      apply follows.expectation_of_none fresh settled parsed recorded faultless _ _ rfl rfl _
      · exact Stage.run_inOverflow later
      · intro d place found
        have differs : ¬ d = c := fun same => other (same ▸ found)
        simp [Stage.proceed?, differs]
      · exact byteCount_pos (List.cons_ne_nil _ _)

end Follows

/-! ## Forms -/

theorem Follows.arrow {minuend subtrahend : Operand}
    (follows : Follows .caseLine final scan raw (.afterSubtrahend minuend subtrahend) noted) :
    Agrees .caseLine final
      (fun _ after => ∃ raw noted,
        Follows .caseLine final after raw (.beforeExpectation minuend subtrahend) noted ∧
          after.AtToken)
      (Parser.padded (Parser.word ['=', '>']) scan) := by
  apply follows.padded
    (fun _ after => Follows .caseLine final after _ (.beforeExpectation minuend subtrahend) [])
    (Stage.takesBlanks rfl)
  · intro scan raw noted follows atToken
    apply (follows.symbol rfl (fun _ => rfl)
      (fun d found other => by simp [Stage.proceed?, atToken d found, other]) rfl (fun _ => rfl)
      rfl).bind
    intro _ after follows
    apply (follows.symbol rfl (fun _ => rfl)
      (fun d _ other => by simp [Stage.proceed?, other]) rfl (fun _ => rfl) rfl).bind
    intro _ after follows
    exact follows
  · intro _ after follows
    exact follows.skip_blanks (Stage.takesBlanks rfl)

def BehindLine (final : Reached) (value : CaseLine) (scan : Scan) : Prop :=
  ∃ minuend subtrahend overflow,
    value = ⟨⟨minuend.written.literal, subtrahend.written.literal⟩, overflow⟩ ∧
      BehindExpectation final minuend subtrahend overflow scan

theorem Follows.caseLine (follows : Follows .caseLine final scan raw .beforeMinuend noted) :
    Agrees .caseLine final (BehindLine final) (Parser.caseLine scan) := by
  apply follows.subtraction.bind
  rintro _ after (⟨minuend, subtrahend, raw, noted, rfl, follows, _⟩ | stuck)
  · apply follows.arrow.bind
    rintro _ after ⟨raw, noted, follows, atToken⟩
    apply (follows.expectation atToken).bind
    intro overflow after behind
    exact ⟨minuend, subtrahend, overflow, rfl, behind⟩
  · have arrow : Agrees .caseLine final (fun _ _ => False) (Parser.word ['=', '>'] after) :=
      (stuck.symbol_fails (by decide)).bind_of_fails
    exact (stuck.padded_fails arrow).bind_of_fails

/-- What a pair of operands gives is what a parse with their values and faults comes to. -/
theorem pair_eq_conclude {minuend subtrahend : Operand}
    (faults_eq : scan.faults = minuend.errors ++ subtrahend.errors) :
    minuend.pair subtrahend =
      Parser.conclude (some ⟨minuend.written.literal, subtrahend.written.literal⟩, scan) := by
  simp only [Parser.conclude, faults_eq, Operand.errors, Operand.pair, WrittenLiteral.literal]
  cases minuend.written.denote <;> cases subtrahend.written.denote <;> rfl

theorem line_eq_conclude {minuend subtrahend : Operand} (overflow : Bool)
    (faults_eq : scan.faults = minuend.errors ++ subtrahend.errors) :
    (minuend.pair subtrahend).map (fun expression => CaseLine.mk expression overflow) =
      Parser.conclude
        (some ⟨⟨minuend.written.literal, subtrahend.written.literal⟩, overflow⟩, scan) := by
  rw [pair_eq_conclude faults_eq, Parser.conclude, Parser.conclude]
  split <;> rfl

theorem Agrees.conclude_eq {outcome : Option form.Result × Scan}
    (agrees : Agrees form final
      (fun result after => final.verdict form = Parser.conclude (some result, after)) outcome) :
    Parser.conclude outcome = final.verdict form := by
  obtain ⟨result, after⟩ := outcome
  cases result with
  | none => exact agrees.symm
  | some result => exact agrees.symm

theorem follows_start (form : Form) (text : List Char) :
    Follows form (reach form 0 .beforeMinuend text) (Scan.start text) .beforeMinuend .beforeMinuend
      [] where
  reaches := rfl
  settles := rfl
  ended _ _ := rfl
  expected_eq := rfl
  noted := Refusal.behind_none 0
  faults_eq := rfl

theorem expression_agrees (text : List Char) :
    Parser.conclude (Form.expression.parser (Scan.start text)) =
      (reach .expression 0 .beforeMinuend text).verdict .expression := by
  apply Agrees.conclude_eq
  apply (follows_start .expression text).subtraction.bind
  rintro _ after (⟨minuend, subtrahend, raw, noted, rfl, follows, atToken⟩ | stuck)
  · have ends := follows.endOfInput rfl
      (fun c found => by simp [Stage.proceed?, atToken c found]) rfl
    apply ends.bind
    rintro _ after ⟨faults_eq, verdict⟩
    exact verdict.trans (pair_eq_conclude faults_eq)
  · exact stuck.endOfInput_fails.bind_of_fails

theorem caseLine_agrees (text : List Char) :
    Parser.conclude (Form.caseLine.parser (Scan.start text)) =
      (reach .caseLine 0 .beforeMinuend text).verdict .caseLine := by
  apply Agrees.conclude_eq
  apply (follows_start .caseLine text).caseLine.bind
  rintro _ after ⟨minuend, subtrahend, overflow, rfl, raw, noted, follows, atToken⟩
  have ends := follows.endOfInput rfl (fun c found => by simp [Stage.proceed?, atToken c found]) rfl
  apply ends.bind
  rintro _ after ⟨faults_eq, verdict⟩
  exact verdict.trans (line_eq_conclude overflow faults_eq)

/-- The parser of a form and the reader that goes from stage to stage come to the same. -/
theorem read_eq_verdict (form : Form) (text : String) :
    read form text = (reach form 0 .beforeMinuend text.toList).verdict form := by
  rw [read]
  cases form with
  | expression => exact expression_agrees text.toList
  | caseLine => exact caseLine_agrees text.toList

end SignedDifference
