import SignedDifference.Reading.PartialLiteral
import SignedDifference.Reading.Syntax

/-!
# Stages of reading

How much of a form has been read, as another account of what the parsers do: character by character
and without alternatives that are given up.  `Stage.next?` takes one more character; a literal under
way takes the character if it can, and otherwise ends before it.  `Stage.expected` lists the ways to
go on.  Blanks may stand before and after every token and inside none.
-/

set_option autoImplicit false

namespace SignedDifference

inductive Stage
  | beforeMinuend
  | inMinuend (start : Nat) (literal : PartialLiteral)
  | afterMinuend (minuend : Operand)
  | beforeSubtrahend (minuend : Operand)
  | inSubtrahend (minuend : Operand) (start : Nat) (literal : PartialLiteral)
  | afterSubtrahend (minuend subtrahend : Operand)
  | afterEquals (minuend subtrahend : Operand)
  | beforeExpectation (minuend subtrahend : Operand)
  | afterO (minuend subtrahend : Operand)
  /-- Inside the word `overflow`, whose letters `next` and `rest` have still to come. -/
  | inOverflow (minuend subtrahend : Operand) (next : Char) (rest : List Char)
  | finished (minuend subtrahend : Operand) (overflow : Bool)
deriving DecidableEq, Repr, Inhabited

namespace Stage

def extend? (c : Char) : Stage → Option Stage
  | .inMinuend start literal => (literal.extend? c).map (.inMinuend start)
  | .inSubtrahend minuend start literal =>
      (literal.extend? c).map (.inSubtrahend minuend start)
  | _ => none

/-- The stage with the literal under way ended at `position`, if it may end. -/
def settle? (position : Nat) : Stage → Option Stage
  | .inMinuend start literal =>
      literal.complete?.map fun written => .afterMinuend ⟨⟨start, position⟩, written⟩
  | .inSubtrahend minuend start literal =>
      literal.complete?.map fun written => .afterSubtrahend minuend ⟨⟨start, position⟩, written⟩
  | stage => some stage

/-- One more character at `position`, with no literal under way. -/
def proceed? (form : Form) (position : Nat) (c : Char) : Stage → Option Stage
  | .beforeMinuend =>
      if Text.isBlank c then some .beforeMinuend
      else (PartialLiteral.begin? c).map (.inMinuend position)
  | .afterMinuend minuend =>
      if Text.isBlank c then some (.afterMinuend minuend)
      else if c = '-' then some (.beforeSubtrahend minuend)
      else none
  | .beforeSubtrahend minuend =>
      if Text.isBlank c then some (.beforeSubtrahend minuend)
      else (PartialLiteral.begin? c).map (.inSubtrahend minuend position)
  | .afterSubtrahend minuend subtrahend =>
      if Text.isBlank c then some (.afterSubtrahend minuend subtrahend)
      else if form = .caseLine ∧ c = '=' then some (.afterEquals minuend subtrahend)
      else none
  | .afterEquals minuend subtrahend =>
      if c = '>' then some (.beforeExpectation minuend subtrahend) else none
  | .beforeExpectation minuend subtrahend =>
      if Text.isBlank c then some (.beforeExpectation minuend subtrahend)
      else if c = 'o' then some (.afterO minuend subtrahend)
      else none
  | .afterO minuend subtrahend =>
      if c = 'v' then some (.inOverflow minuend subtrahend 'e' ['r', 'f', 'l', 'o', 'w'])
      else if c = 'k' then some (.finished minuend subtrahend false)
      else none
  | .inOverflow minuend subtrahend next rest =>
      if c = next then
        match rest with
        | [] => some (.finished minuend subtrahend true)
        | letter :: later => some (.inOverflow minuend subtrahend letter later)
      else none
  | .finished minuend subtrahend overflow =>
      if Text.isBlank c then some (.finished minuend subtrahend overflow) else none
  | .inMinuend _ _ | .inSubtrahend _ _ _ => none

def settled (position : Nat) (stage : Stage) : Stage :=
  (stage.settle? position).getD stage

def next? (form : Form) (position : Nat) (c : Char) (stage : Stage) : Option Stage :=
  match stage.extend? c with
  | some extended => some extended
  | none => (stage.settle? position).bind (proceed? form position c)

def afterExpression : Form → Continuation
  | .expression => .endOfInput
  | .caseLine => .symbol '='

/-- The ways to go on, apart from blanks. -/
def expected (form : Form) : Stage → List Continuation
  | .beforeMinuend | .beforeSubtrahend _ => [.operand]
  | .inMinuend _ literal =>
      literal.continuations ++ if literal.complete?.isSome then [.symbol '-'] else []
  | .afterMinuend _ => [.symbol '-']
  | .inSubtrahend _ _ literal =>
      literal.continuations ++ if literal.complete?.isSome then [afterExpression form] else []
  | .afterSubtrahend _ _ => [afterExpression form]
  | .afterEquals _ _ => [.symbol '>']
  | .beforeExpectation _ _ => [.expectation]
  | .afterO _ _ => [.symbol 'v', .symbol 'k']
  | .inOverflow _ _ next _ => [.symbol next]
  | .finished _ _ _ => [.endOfInput]

def errors : Stage → List ReadError
  | .beforeMinuend | .inMinuend _ _ => []
  | .afterMinuend minuend | .beforeSubtrahend minuend | .inSubtrahend minuend _ _ =>
      minuend.errors
  | .afterSubtrahend minuend subtrahend | .afterEquals minuend subtrahend
  | .beforeExpectation minuend subtrahend | .afterO minuend subtrahend
  | .inOverflow minuend subtrahend _ _ | .finished minuend subtrahend _ =>
      minuend.errors ++ subtrahend.errors

def result? : (form : Form) → Stage → Option (Except (List ReadError) form.Result)
  | .expression, .afterSubtrahend minuend subtrahend => some (minuend.pair subtrahend)
  | .caseLine, .finished minuend subtrahend overflow =>
      some ((minuend.pair subtrahend).map fun expression => CaseLine.mk expression overflow)
  | _, _ => none

end Stage

end SignedDifference
