import SignedDifference.Proofs.Reading.Display
import SignedDifference.Session.Explanation

/-!
# Words typed back

A word is written in decimal, as a bit pattern or by name (`Writes`), and each way of writing it is
a spelling of a literal with its value (`Writes.exists_literal`).  So a difference does not depend
on how its operands are written, and what an explanation shows of them can be typed back
(`written_words_evaluate_alike`).
-/

set_option autoImplicit false

namespace SignedDifference

/-- The text is a way to write the word: in decimal, as its bit pattern in digits of either letter
case behind any number of zeros, or as the end of the range that it is. -/
inductive Writes (word : Int64) : String → Prop
  | decimal : Writes word (Numeral.decimal word.toInt)
  | pattern {mark : Char} {digits : List Char} (zeros : Nat) : mark = 'x' ∨ mark = 'X' →
      digits.map Char.toUpper = Numeral.digits 16 word.toUInt64.toNat →
        Writes word (String.ofList ('0' :: mark :: (List.replicate zeros '0' ++ digits)))
  | min : word = Int64.minValue → Writes word "MIN"
  | max : word = Int64.maxValue → Writes word "MAX"

namespace Writes

variable {word a b : Int64} {text first second : String}

theorem isPattern {digits : List Char} (zeros : Nat)
    (written : digits.map Char.toUpper = Numeral.digits 16 word.toUInt64.toNat) :
    WrittenLiteral.IsPattern (List.replicate zeros '0' ++ digits) word.toUInt64.toNat := by
  constructor
  · apply List.append_ne_nil_of_right_ne_nil
    rintro rfl
    exact Numeral.digits_ne_nil _ _ written.symm
  · rw [Numeral.value?_zeros_append (by decide), ← Numeral.value?_map_toUpper, written]
    exact Numeral.value?_digits (by decide) (by decide) _

theorem exists_literal (writes : Writes word text) :
    ∃ literal : Literal, literal.value = word ∧ literal.SpelledBy text.toList := by
  cases writes with
  | decimal => exact ⟨.int word, rfl, WrittenLiteral.spelledBy_decimal word.toInt⟩
  | pattern zeros marked written =>
      refine ⟨.hex word.toUInt64, Int64.toInt64_toUInt64 word, _, _, marked, ?_,
        isPattern zeros written⟩
      rw [String.toList_ofList]
  | min isMin => exact ⟨.min, isMin.symm, rfl⟩
  | max isMax => exact ⟨.max, isMax.symm, rfl⟩

theorem exists_parse (minuend : Writes a first) (subtrahend : Writes b second) :
    ∃ s : Subtraction, parse (first ++ " - " ++ second) = .ok s ∧ s.minuend.value = a ∧
      s.subtrahend.value = b := by
  obtain ⟨left, valueLeft, spelledLeft⟩ := minuend.exists_literal
  obtain ⟨right, valueRight, spelledRight⟩ := subtrahend.exists_literal
  exact ⟨⟨left, right⟩, parse_of_spellings spelledLeft spelledRight, valueLeft, valueRight⟩

/-! ## What is shown of an operand -/

theorem aligned (word : Int64) (width : Nat) :
    Writes word
      ("0x" ++ Text.alignRight width '0' (Numeral.hexadecimal word.toUInt64.toNat)) := by
  have written : (Numeral.digits 16 word.toUInt64.toNat).map Char.toUpper =
      Numeral.digits 16 word.toUInt64.toNat := Numeral.map_toUpper_digits (by decide) (by decide) _
  have filled : "0x" ++ Text.alignRight width '0' (Numeral.hexadecimal word.toUInt64.toNat) =
      String.ofList ('0' :: 'x' ::
        (List.replicate (width - (Numeral.hexadecimal word.toUInt64.toNat).length) '0' ++
          Numeral.digits 16 word.toUInt64.toNat)) := by
    apply String.toList_injective
    simp [Text.alignRight, Text.fillTo, Numeral.hexadecimal]
  rw [filled]
  exact pattern _ (Or.inl rfl) written

theorem display (literal : Literal) : Writes literal.value literal.display := by
  cases literal with
  | int n => exact decimal
  | hex bits =>
      have unfilled : Writes bits.toInt64 ("0x" ++ Numeral.hexadecimal bits.toNat) := by
        simpa [Text.alignRight, Text.fillTo] using aligned bits.toInt64 0
      exact unfilled
  | min => exact min rfl
  | max => exact max rfl

end Writes

namespace Session

/-- The line on an operand shows it as it was displayed, in decimal and as a bit pattern, and each of
these texts writes its word. -/
structure ShowsWord (role : String) (literal : Literal) (decimal pattern : String) : Prop where
  entry_eq : Explanation.operandEntry role literal =
    .line
      [.plain ("    " ++ role ++ ": "), .magenta literal.display, .plain " (",
       .blue literal.description, .plain ") = ", .yellow decimal, .plain (" / " ++ pattern)]
  writesDisplay : Writes literal.value literal.display
  writesDecimal : Writes literal.value decimal
  writesPattern : Writes literal.value pattern

theorem exists_showsWord (role : String) (literal : Literal) :
    ∃ decimal pattern, ShowsWord role literal decimal pattern := by
  refine ⟨_, _, ?_, Writes.display literal, Writes.decimal, Writes.aligned literal.value 16⟩
  rw [Explanation.operandEntry, ← String.append_assoc]
  rfl

end Session

/-- However the operands are written, the subtraction is accepted and evaluated to the checked
difference of their words.  Each text that an explanation shows of an operand is such a way to write
it, and the expression that it shows in parentheses can be typed back without them. -/
theorem written_words_evaluate_alike :
    (∀ (a b : Int64) (first second : String), Writes a first → Writes b second →
      ∃ s : Subtraction, parse (first ++ " - " ++ second) = .ok s ∧ s.minuend.value = a ∧
        s.subtrahend.value = b ∧ s.evaluate = Method.native.subtract a b) ∧
      (∀ (role : String) (literal : Literal),
        ∃ decimal pattern, Session.ShowsWord role literal decimal pattern) ∧
      ∀ s : Subtraction, ∃ text resolved, s.inline = "(" ++ text ++ ")" ∧
        parse text = .ok resolved ∧ resolved.minuend.value = s.minuend.value ∧
        resolved.subtrahend.value = s.subtrahend.value ∧ resolved.evaluate = s.evaluate := by
  refine ⟨?_, Session.exists_showsWord, ?_⟩
  · intro a b first second minuend subtrahend
    obtain ⟨s, accepted, left, right⟩ := minuend.exists_parse subtrahend
    refine ⟨s, accepted, left, right, ?_⟩
    rw [Subtraction.evaluate, left, right]
  · intro s
    obtain ⟨resolved, accepted, left, right⟩ :=
      (@Writes.decimal s.minuend.value).exists_parse
        (@Writes.decimal s.subtrahend.value)
    refine ⟨_, resolved, ?_, accepted, left, right, ?_⟩
    · simp only [Subtraction.inline, String.append_assoc]
    · rw [Subtraction.evaluate, Subtraction.evaluate, left, right]

/-- Minus one in seventeen digits of both letter cases: the difference is the least word. -/
theorem difference_of_mixed_pattern :
    Writes (-1) "0X0fFfFfFfFfFfFfFfF" ∧ Writes Int64.maxValue "MAX" ∧
      ∃ s, parse "0X0fFfFfFfFfFfFfFfF - MAX" = .ok s ∧ s.evaluate = ⟨Int64.minValue, false⟩ := by
  have word : (-1 : Int64).toUInt64.toNat = 0xFFFFFFFFFFFFFFFF := rfl
  have digits : Numeral.digits 16 (-1 : Int64).toUInt64.toNat = List.replicate 16 'F' := by
    rw [word]
    simp [Numeral.digits, Numeral.digitChar]
  have upper : "fFfFfFfFfFfFfFfF".toList.map Char.toUpper = List.replicate 16 'F' := by decide
  have minusOne : Writes (-1) "0X0fFfFfFfFfFfFfFfF" :=
    Writes.pattern 1 (Or.inr rfl) (upper.trans digits.symm)
  have greatest : Writes Int64.maxValue "MAX" := Writes.max rfl
  obtain ⟨s, accepted, _, _, evaluated⟩ :=
    written_words_evaluate_alike.1 _ _ _ _ minusOne greatest
  refine ⟨minusOne, greatest, s, accepted, ?_⟩
  rw [evaluated]
  decide

end SignedDifference
