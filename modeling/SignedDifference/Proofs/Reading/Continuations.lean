import Mathlib.Tactic.IntervalCases
import SignedDifference.Proofs.Reading.Verdict
import SignedDifference.Reading.Expectation

/-!
# The list of expectations

A stage takes exactly the characters that its expectations name, and blanks unless it is inside a
token (`Stage.isSome_next?_iff`).  Since a stage and the text that leads to it agree on what is
under way (`literal?_eq_some_iff`), the list of a grammar error is exactly the set of ways to go on
(`expected_names_continuations`).
-/

set_option autoImplicit false

namespace SignedDifference

open Text (byteCount byteCount_append isBlank)
open Numeral (digit?)

/-! ## Digits -/

theorem isDigit_iff {c : Char} : IsDigit c ↔ 48 ≤ c.toNat ∧ c.toNat ≤ 57 := by
  simp only [IsDigit, Char.le_def, UInt32.le_iff_toNat_le, ← Char.toNat_val]
  exact Iff.rfl

theorem isHexDigit_iff {c : Char} :
    IsHexDigit c ↔ (48 ≤ c.toNat ∧ c.toNat ≤ 57) ∨ (65 ≤ c.toNat ∧ c.toNat ≤ 70) ∨
      (97 ≤ c.toNat ∧ c.toNat ≤ 102) := by
  simp only [IsHexDigit, isDigit_iff, Char.le_def, UInt32.le_iff_toNat_le, ← Char.toNat_val]
  exact Iff.rfl

theorem isSome_digit?_ten {c : Char} : (digit? 10 c).isSome ↔ IsDigit c := by
  rw [isDigit_iff, Option.isSome_iff_exists]
  simp only [Numeral.digit?_eq_some_iff, Numeral.digitOfChar_eq_some_iff]
  constructor
  · intro isDigit
    obtain ⟨digit, range, small⟩ := isDigit
    omega
  · intro range
    exact ⟨c.toNat - 48, Or.inl ⟨range.1, range.2, rfl⟩, by omega⟩

theorem isSome_digit?_sixteen {c : Char} : (digit? 16 c).isSome ↔ IsHexDigit c := by
  rw [isHexDigit_iff, Option.isSome_iff_exists]
  simp only [Numeral.digit?_eq_some_iff, Numeral.digitOfChar_eq_some_iff]
  constructor
  · intro isDigit
    obtain ⟨digit, range, small⟩ := isDigit
    omega
  · rintro (range | range | range)
    · exact ⟨c.toNat - 48, by omega, by omega⟩
    · exact ⟨c.toNat - 55, by omega, by omega⟩
    · exact ⟨c.toNat - 87, by omega, by omega⟩

theorem isDigit_iff_zero_or {c : Char} : IsDigit c ↔ ('1' ≤ c ∧ c ≤ '9') ∨ c = '0' := by
  rw [isDigit_iff, ← Char.toNat_inj]
  simp only [Char.le_def, UInt32.le_iff_toNat_le, ← Char.toNat_val]
  simp only [show '1'.val.toNat = 49 from rfl, show '9'.val.toNat = 57 from rfl,
    show '0'.val.toNat = 48 from rfl]
  omega

namespace PartialLiteral

def IsPattern : PartialLiteral → Prop
  | .hexMark | .whole (.pattern _) => True
  | _ => False

theorem isSome_begin?_iff {c : Char} : (begin? c).isSome ↔ c = '-' ∨ IsDigit c ∨ c = 'M' := by
  unfold begin?
  split
  · rename_i sign
    simp [sign]
  · split
    · rename_i letter
      simp [letter]
    · rename_i notSign notLetter
      simp [notSign, notLetter, isSome_digit?_ten]

theorem isSome_extend?_iff {literal : PartialLiteral} {c : Char} :
    (literal.extend? c).isSome ↔
      ∃ entry ∈ literal.continuations, entry.Names literal.IsPattern c := by
  cases literal with
  | sign =>
      simp [extend?, continuations, Continuation.Names, isSome_digit?_ten, isDigit_iff_zero_or]
  | hexMark =>
      simp [extend?, continuations, Continuation.Names, IsPattern, isSome_digit?_sixteen]
  | m =>
      simp only [extend?, continuations, List.mem_cons, List.not_mem_nil, or_false,
        exists_eq_or_imp, exists_eq_left, Continuation.Names]
      split
      · simp_all
      · split <;> simp_all
  | mi => simp [extend?, continuations, Continuation.Names]
  | ma => simp [extend?, continuations, Continuation.Names]
  | whole written =>
      cases written with
      | decimal negative magnitude =>
          by_cases zero : magnitude = 0
          · cases negative <;>
              simp [extend?, extendWhole?, continuations, zero, Continuation.Names]
          · simp [extend?, extendWhole?, continuations, zero, Continuation.Names, IsPattern,
              isSome_digit?_ten]
      | pattern bits =>
          simp [extend?, extendWhole?, continuations, Continuation.Names, IsPattern,
            isSome_digit?_sixteen]
      | min | max => simp [extend?, extendWhole?, continuations]

end PartialLiteral

namespace Stage

def literal? : Stage → Option PartialLiteral
  | .inMinuend _ literal => some literal
  | .inSubtrahend _ _ literal => some literal
  | _ => none

def ReadsPattern (stage : Stage) : Prop :=
  ∃ literal, stage.literal? = some literal ∧ literal.IsPattern

/-- Some token has begun and cannot end here. -/
def ReadsToken : Stage → Prop
  | .inMinuend _ literal => literal.complete? = none
  | .inSubtrahend _ _ literal => literal.complete? = none
  | .afterEquals _ _ => True
  | .afterO _ _ => True
  | .inOverflow _ _ _ _ => True
  | _ => False

variable {form : Form} {position : Nat} {c : Char}

theorem isSome_next?_of_literal {before : Stage} {within : Nat → PartialLiteral → Stage}
    {ended : Operand → Stage} (around : AroundOperand form before within ended) {follows : Prop}
    (proceeds : ∀ operand, ((ended operand).proceed? form position c).isSome ↔ follows)
    (start : Nat) (literal : PartialLiteral) :
    ((within start literal).next? form position c).isSome ↔
      (literal.extend? c).isSome ∨ (literal.complete?.isSome ∧ follows) := by
  rw [next?, around.extends_eq]
  cases extended : literal.extend? c with
  | some longer => simp
  | none =>
      simp only [Option.map_none, Option.isSome_none, Bool.false_eq_true, false_or,
        around.settle_eq]
      cases literal.complete? with
      | none => simp
      | some written => simp [proceeds]

theorem next?_eq_proceed? {stage : Stage} (noLiteral : stage.literal? = none) :
    stage.next? form position c = stage.proceed? form position c := by
  cases stage with
  | inMinuend | inSubtrahend => simp [literal?] at noLiteral
  | _ => rfl

theorem isSome_ite_some {α : Type} {condition : Prop} [Decidable condition] {value : α}
    {other : Option α} :
    (if condition then some value else other).isSome ↔ condition ∨ other.isSome := by
  split <;> simp_all

theorem isSome_proceed?_afterMinuend {minuend : Operand} :
    ((Stage.afterMinuend minuend).proceed? form position c).isSome ↔
      isBlank c = true ∨ c = '-' := by
  simp only [proceed?, isSome_ite_some, Option.isSome_none, Bool.false_eq_true, or_false]

theorem isSome_proceed?_afterSubtrahend {minuend subtrahend : Operand} (inPattern : Prop) :
    ((Stage.afterSubtrahend minuend subtrahend).proceed? form position c).isSome ↔
      isBlank c = true ∨ (afterExpression form).Names inPattern c := by
  simp only [proceed?, isSome_ite_some, Option.isSome_none, Bool.false_eq_true, or_false]
  cases form <;> simp [afterExpression, Continuation.Names]

theorem isSome_next?_literal_iff {literal : PartialLiteral} {next : Option Stage}
    {inPattern : Prop} (following : Continuation) (pattern : inPattern ↔ literal.IsPattern)
    (taken : next.isSome ↔ (literal.extend? c).isSome ∨
      (literal.complete?.isSome ∧ (isBlank c = true ∨ following.Names inPattern c))) :
    next.isSome ↔
      (∃ entry ∈ literal.continuations ++ (if literal.complete?.isSome then [following] else []),
        entry.Names inPattern c) ∨ (isBlank c = true ∧ ¬ literal.complete? = none) := by
  rw [taken, PartialLiteral.isSome_extend?_iff, ← propext pattern]
  cases complete : literal.complete? with
  | none => simp
  | some written =>
      simp only [Option.isSome_some, true_and, if_true, List.mem_append, List.mem_singleton,
        or_and_right, exists_or, exists_eq_left, reduceCtorEq, not_false_eq_true, and_true]
      exact or_assoc.symm.trans or_right_comm

/-- A stage takes what its expectations name, and blanks outside tokens. -/
theorem isSome_next?_iff {stage : Stage} :
    (stage.next? form position c).isSome ↔
      (∃ entry ∈ stage.expected form, entry.Names stage.ReadsPattern c) ∨
        (isBlank c = true ∧ ¬ stage.ReadsToken) := by
  cases stage with
  | inMinuend start literal =>
      exact isSome_next?_literal_iff (.symbol '-') (by simp [ReadsPattern, literal?])
        (isSome_next?_of_literal (aroundMinuend form) (fun _ => isSome_proceed?_afterMinuend) _ _)
  | inSubtrahend minuend start literal =>
      exact isSome_next?_literal_iff (afterExpression form)
        (by simp [ReadsPattern, literal?])
        (isSome_next?_of_literal (aroundSubtrahend form minuend)
          (fun _ => isSome_proceed?_afterSubtrahend _) _ _)
  | beforeMinuend | beforeSubtrahend =>
      rw [next?_eq_proceed? rfl]
      simp only [proceed?, isSome_ite_some, Option.isSome_map, PartialLiteral.isSome_begin?_iff]
      simp [expected, Continuation.Names, ReadsToken, or_comm]
  | afterMinuend minuend =>
      rw [next?_eq_proceed? rfl, isSome_proceed?_afterMinuend]
      simp [expected, Continuation.Names, ReadsToken, or_comm]
  | afterSubtrahend minuend subtrahend =>
      rw [next?_eq_proceed? rfl,
        isSome_proceed?_afterSubtrahend (Stage.afterSubtrahend minuend subtrahend).ReadsPattern,
        or_comm]
      simp only [expected, ReadsToken, List.mem_singleton, exists_eq_left, not_false_eq_true,
        and_true]
  | afterEquals | beforeExpectation | afterO | finished =>
      rw [next?_eq_proceed? rfl]
      simp only [proceed?, isSome_ite_some, Option.isSome_none]
      simp [expected, Continuation.Names, ReadsToken, or_comm]
  | inOverflow minuend subtrahend letter rest =>
      rw [next?_eq_proceed? rfl]
      simp only [proceed?]
      cases rest <;> simp [expected, Continuation.Names, ReadsToken, isSome_ite_some]

/-! ## The stage and the text agree -/

theorem literal?_eq_some_iff {text : List Char} {stage : Stage} {literal : PartialLiteral}
    (reached : after? form text = some stage) :
    stage.literal? = some literal ↔
      ∃ front token, OpensOperand front ∧ literal.StandsFor token ∧ text = front ++ token := by
  constructor
  · intro underWay
    have described := describes_after reached
    cases stage with
    | inMinuend start literal =>
        cases underWay
        obtain ⟨front, token, blanks, _, stands, rfl⟩ := described
        exact ⟨front, token, Or.inl blanks, stands, rfl⟩
    | inSubtrahend minuend start literal =>
        cases underWay
        obtain ⟨front, token, ends, _, stands, rfl⟩ := described
        exact ⟨front, token, Or.inr ⟨minuend, ends⟩, stands, rfl⟩
    | _ => simp [literal?] at underWay
  · rintro ⟨front, token, blanks | ⟨minuend, ends⟩, stands, rfl⟩
    · rw [(aroundMinuend form).after?_token (after?_of_blanks blanks) stands] at reached
      cases reached
      rfl
    · rw [(aroundSubtrahend form minuend).after?_token (after?_of_endsMinus ends) stands]
        at reached
      cases reached
      rfl

theorem exists_pattern_iff {token : List Char} :
    (∃ literal : PartialLiteral, literal.IsPattern ∧ literal.StandsFor token) ↔
      ∃ mark digits, (mark = 'x' ∨ mark = 'X') ∧ (∀ digit ∈ digits, IsHexDigit digit) ∧
        token = '0' :: mark :: digits := by
  simp only [← isSome_digit?_sixteen, ← Numeral.isSome_valueFrom?_iff 0]
  constructor
  · intro begun
    obtain ⟨literal, isPattern, stands⟩ := begun
    cases literal with
    | hexMark =>
        obtain ⟨mark, marked, rfl⟩ := stands
        exact ⟨mark, [], marked, rfl, rfl⟩
    | whole written =>
        cases written with
        | pattern bits =>
            obtain ⟨mark, digits, marked, rfl, _, value⟩ := stands
            exact ⟨mark, digits, marked, Option.isSome_of_eq_some value, rfl⟩
        | _ => exact absurd isPattern not_false
    | _ => exact absurd isPattern not_false
  · intro spelled
    obtain ⟨mark, digits, marked, hexadecimal, rfl⟩ := spelled
    by_cases none : digits = []
    · exact ⟨.hexMark, trivial, mark, marked, by rw [none]⟩
    · obtain ⟨bits, value⟩ := Option.isSome_iff_exists.mp hexadecimal
      exact ⟨.whole (.pattern bits), trivial, mark, digits, marked, rfl, none, value⟩

theorem readsPattern_iff {text : List Char} {stage : Stage}
    (reached : after? form text = some stage) : stage.ReadsPattern ↔ InPattern text := by
  simp only [ReadsPattern, literal?_eq_some_iff reached]
  constructor
  · intro reads
    obtain ⟨literal, ⟨front, token, opens, stands, rfl⟩, isPattern⟩ := reads
    obtain ⟨mark, digits, marked, hexadecimal, rfl⟩ :=
      exists_pattern_iff.mp ⟨literal, isPattern, stands⟩
    exact ⟨front, mark, digits, opens, marked, hexadecimal, rfl⟩
  · intro inPattern
    obtain ⟨front, mark, digits, opens, marked, hexadecimal, rfl⟩ := inPattern
    obtain ⟨literal, isPattern, stands⟩ :=
      exists_pattern_iff.mpr ⟨mark, digits, marked, hexadecimal, rfl⟩
    exact ⟨literal, ⟨front, _, opens, stands, rfl⟩, isPattern⟩

theorem exists_incomplete_iff {token : List Char} :
    (∃ literal : PartialLiteral, literal.complete? = none ∧ literal.StandsFor token) ↔
      token ∈ [['-'], ['0', 'x'], ['0', 'X'], ['M'], ['M', 'I'], ['M', 'A']] := by
  simp only [List.mem_cons, List.not_mem_nil, or_false]
  constructor
  · intro begun
    obtain ⟨literal, incomplete, stands⟩ := begun
    cases literal with
    | hexMark =>
        obtain ⟨mark, rfl | rfl, rfl⟩ := stands <;> simp
    | whole written => simp [PartialLiteral.complete?] at incomplete
    | _ => cases stands; simp
  · rintro (rfl | rfl | rfl | rfl | rfl | rfl)
    · exact ⟨.sign, rfl, rfl⟩
    · exact ⟨.hexMark, rfl, 'x', Or.inl rfl, rfl⟩
    · exact ⟨.hexMark, rfl, 'X', Or.inr rfl, rfl⟩
    · exact ⟨.m, rfl, rfl⟩
    · exact ⟨.mi, rfl, rfl⟩
    · exact ⟨.ma, rfl, rfl⟩

theorem readsToken_of_literal? {stage : Stage} {literal : PartialLiteral}
    (underWay : stage.literal? = some literal) :
    stage.ReadsToken ↔ literal.complete? = none := by
  cases stage with
  | inMinuend | inSubtrahend => cases underWay; exact Iff.rfl
  | _ => simp [literal?] at underWay

theorem exists_readsToken_of_letters {minuend subtrahend : Operand} {letters rest : List Char}
    {overflow : Bool} (begun : letters ≠ []) (unfinished : rest ≠ [])
    (spelled : letters ++ rest = (Case.expectation overflow).toList) :
    ∃ stage : Stage, stage.ReadsToken ∧ ∀ position,
      run .caseLine position (.beforeExpectation minuend subtrahend) letters = some stage := by
  have taken : letters = (Case.expectation overflow).toList.take letters.length := by
    rw [← spelled, List.take_left]
  have lengths := congrArg List.length spelled
  have positive := List.length_pos_iff.mpr begun
  have remaining := List.length_pos_iff.mpr unfinished
  rw [List.length_append] at lengths
  rw [taken]
  generalize letters.length = count at *
  cases overflow with
  | false =>
      have size : (Case.expectation false).toList.length = 2 := rfl
      obtain rfl : count = 1 := by omega
      exact ⟨.afterO minuend subtrahend, trivial, fun _ => rfl⟩
  | true =>
      have size : (Case.expectation true).toList.length = 8 := rfl
      have small : count < 8 := by omega
      interval_cases count
      · exact ⟨.afterO minuend subtrahend, trivial, fun _ => rfl⟩
      all_goals exact ⟨.inOverflow minuend subtrahend _ _, trivial, fun _ => rfl⟩

theorem eq_caseLine_of_equals {minuend subtrahend : Operand} {expression later : List Char}
    {stage : Stage} (ends : EndsSubtrahend minuend subtrahend expression)
    (reached : after? form (expression ++ '=' :: later) = some stage) : form = .caseLine := by
  cases form with
  | caseLine => rfl
  | expression =>
      rw [← List.singleton_append, ← List.append_assoc] at reached
      obtain ⟨equals, reachedEquals⟩ := exists_after?_of_append reached
      rw [(settles_of_endsSubtrahend ends).after?_concat (Or.inr (Or.inr rfl))] at reachedEquals
      cases reachedEquals

theorem readsToken_iff {text : List Char} {stage : Stage}
    (reached : after? form text = some stage) : stage.ReadsToken ↔ InsideToken text := by
  constructor
  · intro inside
    have described := describes_after reached
    have ofLiteral : ∀ literal, stage.literal? = some literal → InsideToken text := by
      intro literal underWay
      have incomplete := (readsToken_of_literal? underWay).mp inside
      obtain ⟨front, token, opens, stands, rfl⟩ := (literal?_eq_some_iff reached).mp underWay
      exact .literal opens (exists_incomplete_iff.mp ⟨literal, incomplete, stands⟩)
    cases stage with
    | inMinuend start literal => exact ofLiteral literal rfl
    | inSubtrahend minuend start literal => exact ofLiteral literal rfl
    | afterEquals minuend subtrahend =>
        obtain ⟨_, expression, ends, rfl⟩ := described
        exact .arrow ends
    | afterO minuend subtrahend =>
        obtain ⟨_, line, ends, rfl⟩ := described
        have word : ['o'] ++ ['k'] = (Case.expectation false).toList := rfl
        exact .expectation ends (by simp) (by simp) word
    | inOverflow minuend subtrahend letter rest =>
        obtain ⟨_, line, letters, ends, long, spelled, rfl⟩ := described
        have begun : letters ≠ [] := by rintro rfl; simp at long
        have word : letters ++ letter :: rest = (Case.expectation true).toList := spelled
        exact .expectation ends begun (by simp) word
    | _ => exact absurd inside not_false
  · intro inside
    cases inside with
    | literal opens listed =>
        obtain ⟨literal, incomplete, stands⟩ := exists_incomplete_iff.mpr listed
        have underWay := (literal?_eq_some_iff reached).mpr ⟨_, _, opens, stands, rfl⟩
        exact (readsToken_of_literal? underWay).mpr incomplete
    | arrow ends =>
        obtain rfl := eq_caseLine_of_equals ends reached
        rw [after?_equals ends] at reached
        cases reached
        trivial
    | expectation ends begun unfinished spelled =>
        obtain ⟨expression, gap, endsExpression, blanks, rfl⟩ := ends
        obtain rfl : form = .caseLine := by
          rw [List.append_assoc] at reached
          exact eq_caseLine_of_equals endsExpression reached
        obtain ⟨inWord, inside, spelledOut⟩ :=
          exists_readsToken_of_letters begun unfinished spelled
        rw [after?_letters ⟨expression, gap, endsExpression, blanks, rfl⟩ spelledOut] at reached
        cases reached
        exact inside

/-! ## The end of the input -/

theorem endOfInput_not_mem_continuations (literal : PartialLiteral) :
    .endOfInput ∉ literal.continuations := by
  cases literal with
  | whole written =>
      cases written with
      | decimal negative magnitude =>
          simp only [PartialLiteral.continuations]
          by_cases zero : magnitude = 0
          · cases negative <;> simp [zero]
          · simp [zero]
      | _ => simp [PartialLiteral.continuations]
  | _ => simp [PartialLiteral.continuations]

theorem isSome_result?_afterSubtrahend {minuend subtrahend : Operand} :
    ((Stage.afterSubtrahend minuend subtrahend).result? form).isSome ↔ form = .expression := by
  cases form with
  | expression => exact iff_of_true rfl rfl
  | caseLine => exact iff_of_false Bool.false_ne_true (by simp)

theorem endOfInput_mem_expected_iff {text : List Char} {stage : Stage} (position : Nat)
    (described : stage.Describes form text) :
    .endOfInput ∈ stage.expected form ↔
      ∃ settled, stage.settle? position = some settled ∧ (settled.result? form).isSome := by
  cases stage with
  | inMinuend start literal =>
      have absent := endOfInput_not_mem_continuations literal
      simp only [expected, settle?, List.mem_append, absent, false_or]
      cases literal.complete? <;> cases form <;> simp [result?]
  | inSubtrahend minuend start literal =>
      have absent := endOfInput_not_mem_continuations literal
      simp only [expected, settle?, List.mem_append, absent, false_or]
      cases literal.complete? <;> cases form <;>
        simp [isSome_result?_afterSubtrahend, afterExpression]
  | afterSubtrahend minuend subtrahend =>
      simp only [settle?, Option.some.injEq, exists_eq_left', isSome_result?_afterSubtrahend]
      cases form <;> simp [expected, afterExpression]
  | finished minuend subtrahend overflow =>
      obtain ⟨rfl, _⟩ := described
      exact iff_of_true (List.mem_singleton.mpr rfl) ⟨_, rfl, rfl⟩
  | _ => cases form <;> simp [expected, settle?, result?]

theorem endOfInput_mem_iff_matches {text : List Char} {stage : Stage}
    (reached : after? form text = some stage) :
    .endOfInput ∈ stage.expected form ↔ form.Matches text := by
  rw [endOfInput_mem_expected_iff (byteCount text) (describes_after reached),
    SignedDifference.matches_iff]
  constructor
  · intro ends
    obtain ⟨settled, ended, complete⟩ := ends
    exact ⟨settled, ⟨stage, reached, ended⟩, complete⟩
  · intro ends
    obtain ⟨settled, ⟨raw, reachedRaw, ended⟩, complete⟩ := ends
    cases Option.some.inj (reached.symm.trans reachedRaw)
    exact ⟨settled, ended, complete⟩

end Stage

/-- The entries of a grammar error are exactly the ways to go on from where it stands. -/
theorem expected_names_continuations (form : Form) (text : String) (errors : List ReadError)
    (span : Span) (found : Option Char) (expected : List Continuation)
    (failed : read form text = .error errors)
    (reported : .unexpected span found expected ∈ errors) :
    ∃ front, front <+: text.toList ∧ byteCount front = span.start ∧
      (∀ c, form.Viable (front ++ [c]) ↔
        (∃ entry ∈ expected, entry.Names (InPattern front) c) ∨
          (isBlank c = true ∧ ¬ InsideToken front)) ∧
      (.endOfInput ∈ expected ↔ form.Matches front) ∧
      expected.Nodup := by
  obtain ⟨front, reached, stopped, verdict⟩ := exists_read_stopped form text
  have after_eq := stopped.after_eq
  rw [verdict] at failed
  rcases stopped.errors_cases failed with ⟨_, rfl, _⟩ | ⟨_, rfl⟩
  · obtain ⟨_, _, same⟩ := Stage.exists_fault_of_mem_errors reported
    simp at same
  · rcases List.mem_append.mp reported with early | last
    · obtain ⟨_, _, same⟩ := Stage.exists_fault_of_mem_errors early
      simp at same
    · rw [List.mem_singleton, Reached.grammarError, ReadError.unexpected.injEq] at last
      obtain ⟨rfl, rfl, rfl⟩ := last
      refine ⟨front, ⟨_, stopped.text_eq.symm⟩, ?_, ?_, ?_, ?_⟩
      · rw [← stopped.position_eq, Reached.start_span]
      · intro c
        rw [viable_iff, Stage.after?_concat, after_eq, Option.bind_some,
          ← Option.isSome_iff_exists, Stage.isSome_next?_iff, Stage.readsToken_iff after_eq,
          propext (Stage.readsPattern_iff after_eq)]
      · exact Stage.endOfInput_mem_iff_matches after_eq
      · exact Stage.nodup_expected form _

/-- After the mark of a bit pattern nothing but a hexadecimal digit goes on. -/
theorem continuations_after_hexMark :
    read .expression "1 - 0xG" = .error [.unexpected ⟨6, 7⟩ (some 'G') [.digit]] ∧
      ∃ front, front <+: "1 - 0xG".toList ∧ byteCount front = 6 ∧
        (∀ c, Form.expression.Viable (front ++ [c]) ↔
          (∃ entry ∈ [Continuation.digit], entry.Names (InPattern front) c) ∨
            (isBlank c = true ∧ ¬ InsideToken front)) ∧
        (.endOfInput ∈ [Continuation.digit] ↔ Form.expression.Matches front) ∧
        [Continuation.digit].Nodup := by
  have failed : read .expression "1 - 0xG" =
      .error [.unexpected ⟨6, 7⟩ (some 'G') [.digit]] := by
    rw [read_eq_verdict]
    rfl
  exact ⟨failed, expected_names_continuations .expression "1 - 0xG" _ _ _ _ failed
    (List.mem_singleton.mpr rfl)⟩

end SignedDifference
