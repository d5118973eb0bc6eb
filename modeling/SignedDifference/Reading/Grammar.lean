import SignedDifference.Reading.Syntax

/-!
# The grammar

Which texts are expressions and case lines, said of the text as a whole.  Operands are taken as they
are written, whether they fit or not.  A beginning of such a text is called viable.
-/

set_option autoImplicit false

namespace SignedDifference

def Blanks (text : List Char) : Prop :=
  ∀ c ∈ text, Text.isBlank c = true

/-- The text is a subtraction of what is written on either side of the minus sign. -/
def IsExpression (minuend subtrahend : WrittenLiteral) (text : List Char) : Prop :=
  ∃ before first afterFirst beforeSecond second after,
    Blanks before ∧ Blanks afterFirst ∧ Blanks beforeSecond ∧ Blanks after ∧
      minuend.SpelledBy first ∧ subtrahend.SpelledBy second ∧
      text = before ++ first ++ afterFirst ++ '-' :: (beforeSecond ++ second ++ after)

/-- The text is an expression, an arrow and an expectation. -/
def IsCaseLine (minuend subtrahend : WrittenLiteral) (overflow : Bool) (text : List Char) : Prop :=
  ∃ expression before after,
    IsExpression minuend subtrahend expression ∧ Blanks before ∧ Blanks after ∧
      text = expression ++ '=' :: '>' ::
        (before ++ (Case.expectation overflow).toList ++ after)

/-- The text has the form, whether its operands fit or not. -/
def Form.Matches : Form → List Char → Prop
  | .expression, text => ∃ minuend subtrahend, IsExpression minuend subtrahend text
  | .caseLine, text =>
      ∃ minuend subtrahend overflow, IsCaseLine minuend subtrahend overflow text

/-- The text can be completed to one of the form. -/
def Form.Viable (form : Form) (text : List Char) : Prop :=
  ∃ rest, form.Matches (text ++ rest)

end SignedDifference
