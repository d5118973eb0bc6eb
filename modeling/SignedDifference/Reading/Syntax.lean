import SignedDifference.Case
import SignedDifference.Reading.Parser
import SignedDifference.Reading.WrittenLiteral

/-!
# The syntax of expressions and case lines

An operand is a bit pattern, a decimal, or the name of an end of the range, tried in this order.  An
expression is two operands around a minus sign, and a case line is an expression with an arrow and
an expectation.  Blanks may stand around every token.
-/

set_option autoImplicit false

namespace SignedDifference

namespace Parser

def isDigit (base : Nat) (c : Char) : Bool :=
  (Numeral.digit? base c).isSome

def isNonzeroDigit (base : Nat) (c : Char) : Bool :=
  c != '0' && isDigit base c

def magnitude (base : Nat) (digits : List Char) : Nat :=
  (Numeral.value? base digits).getD 0

def digits (base : Nat) : Parser (List Char) := do
  let first ← satisfy .digit (isDigit base)
  let later ← many .digit (isDigit base)
  return first :: later

/-- A zero, or digits of which the first is not zero. -/
def integer (base : Nat) : Parser (List Char) :=
  (do
    let first ← satisfy .nonzeroDigit (isNonzeroDigit base)
    let later ← many .digit (isDigit base)
    return first :: later) <|>
  (do return [← symbol '0'])

def hexPattern : Parser Literal :=
  labelled .hexPattern <|
    validate
      (do
        word ['0', 'x'] <|> word ['0', 'X']
        digits 16)
      (fun digits => (WrittenLiteral.pattern (magnitude 16 digits)).denote) (.hex 0)

def decimal : Parser Literal :=
  labelled .decimalInteger <|
    validate
      (do return ((← optional (symbol '-')).isSome, ← integer 10))
      (fun (negative, digits) => (WrittenLiteral.decimal negative (magnitude 10 digits)).denote)
      (.int 0)

def endName : Parser Literal :=
  (do
    word ['M', 'I', 'N']
    return .min) <|>
  (do
    word ['M', 'A', 'X']
    return .max)

def literal : Parser Literal :=
  hexPattern <|> decimal <|> endName

def operand : Parser Literal :=
  labelled .operand (padded literal)

def subtraction : Parser Subtraction :=
  padded do
    let minuend ← operand
    let _ ← padded (symbol '-')
    let subtrahend ← operand
    return ⟨minuend, subtrahend⟩

def expectationWord : Parser Bool :=
  (do
    word ['o', 'v', 'e', 'r', 'f', 'l', 'o', 'w']
    return true) <|>
  (do
    word ['o', 'k']
    return false)

def expectation : Parser Bool :=
  labelled .expectation (padded expectationWord)

def caseLine : Parser CaseLine := do
  let expression ← subtraction
  padded (word ['=', '>'])
  let overflow ← expectation
  return ⟨expression, overflow⟩

end Parser

/-- What a text is read as: `a - b`, or `a - b => overflow` and `a - b => ok`. -/
inductive Form
  | expression
  | caseLine
deriving DecidableEq, Repr, Inhabited

namespace Form

def Result : Form → Type
  | .expression => Subtraction
  | .caseLine => CaseLine

def parser : (form : Form) → Parser form.Result
  | .expression => do
      let expression ← Parser.subtraction
      Parser.endOfInput
      return expression
  | .caseLine => do
      let line ← Parser.caseLine
      Parser.endOfInput
      return line

end Form

end SignedDifference
