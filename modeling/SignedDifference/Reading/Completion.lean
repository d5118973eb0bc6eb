import SignedDifference.Reading.Place

/-!
# Completed operands

The operands that a reading completes, said of the text that was read, and what is said of one whose
value does not fit.
-/

set_option autoImplicit false

namespace SignedDifference

open Text (byteCount)

structure Form.LongestViable (form : Form) (text front : List Char) : Prop where
  isBeginning : front <+: text
  viable : form.Viable front
  longest : ∀ longer, longer <+: text → form.Viable longer → longer <+: front

/-- The operand stands in the text as a whole literal that what follows does not go on with. -/
def Operand.CompletedIn (operand : Operand) (text : List Char) : Prop :=
  ∃ front token after, OpensOperand front ∧ operand.Covers front token ∧
    text = front ++ token ++ after ∧
      ∀ c, after.head? = some c → ∀ (later : List Char) (written : WrittenLiteral),
        ¬ written.SpelledBy (token ++ c :: later)

/-- What is said of a literal whose value does not fit. -/
def WrittenLiteral.complaint? : WrittenLiteral → Option String
  | .decimal negative magnitude =>
      if 9223372036854775807 < signed negative magnitude then
        some "illegal integer literal: number too large to fit in target type"
      else if signed negative magnitude < -9223372036854775808 then
        some "illegal integer literal: number too small to fit in target type"
      else none
  | .pattern bits =>
      if 0x10000000000000000 ≤ bits then
        some "illegal hex literal: number too large to fit in target type"
      else none
  | .min | .max => none

/-- The span holds some of the characters of the text, cut between characters. -/
def Span.Within (span : Span) (text : List Char) : Prop :=
  ∃ front middle back, text = front ++ middle ++ back ∧
    span = ⟨byteCount front, byteCount (front ++ middle)⟩

end SignedDifference
