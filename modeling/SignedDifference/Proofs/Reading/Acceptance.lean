import SignedDifference.Proofs.Reading.Verdict

/-!
# Accepted expressions

A text is accepted with a result exactly if it can be laid out as blanks, a spelling of the minuend,
blanks, a minus sign, blanks, a spelling of the subtrahend and blanks.  Whatever the minus signs in
the text, there is one such layout at most, because a layout tells the reader where each operand
starts and ends (`parse_ok_iff_layout`).
-/

set_option autoImplicit false

namespace SignedDifference

open Text (byteCount byteCount_append eq_of_byteCount_eq)

namespace WrittenLiteral

theorem denoteDecimal_eq_ok_iff {n : Int} {literal : Literal} :
    denoteDecimal n = .ok literal ↔ ∃ word : Int64, word.toInt = n ∧ literal = .int word := by
  unfold denoteDecimal
  constructor
  · intro accepted
    split at accepted
    · simp at accepted
    · split at accepted
      · simp at accepted
      · rename_i low high
        refine ⟨Int64.ofInt n, ?_, (Except.ok.inj accepted).symm⟩
        simp only [leastWord, greatestWord] at low high
        exact Int64.toInt_ofInt_of_le (by omega) (by omega)
  · intro fits
    obtain ⟨word, rfl, rfl⟩ := fits
    have low := Int64.le_toInt word
    have high := Int64.toInt_lt word
    rw [if_neg (by simp only [leastWord]; omega), if_neg (by simp only [greatestWord]; omega),
      Int64.ofInt_toInt]

end WrittenLiteral

theorem Literal.spelledBy_iff {literal : Literal} {token : List Char} :
    literal.SpelledBy token ↔
      ∃ written : WrittenLiteral, written.SpelledBy token ∧ written.denote = .ok literal := by
  constructor
  · intro spelled
    cases literal with
    | int n =>
        obtain ⟨negative, magnitude, value, spelled⟩ := spelled
        exact ⟨_, spelled, WrittenLiteral.denoteDecimal_eq_ok_iff.mpr ⟨n, value.symm, rfl⟩⟩
    | hex bits =>
        refine ⟨.pattern bits.toNat, spelled, ?_⟩
        rw [WrittenLiteral.denote, if_pos bits.toNat_lt, UInt64.ofNat_toNat]
    | min => exact ⟨.min, spelled, rfl⟩
    | max => exact ⟨.max, spelled, rfl⟩
  · intro spelledOut
    obtain ⟨written, spelled, denotes⟩ := spelledOut
    cases written with
    | decimal negative magnitude =>
        obtain ⟨word, value, rfl⟩ := WrittenLiteral.denoteDecimal_eq_ok_iff.mp denotes
        exact ⟨negative, magnitude, value.symm, spelled⟩
    | pattern bits =>
        simp only [WrittenLiteral.denote] at denotes
        split at denotes
        · rename_i small
          cases denotes
          rwa [Literal.SpelledBy, UInt64.toNat_ofNat_of_lt' small]
        · simp at denotes
    | min => cases denotes; exact spelled
    | max => cases denotes; exact spelled

/-- An expression cut into its operands and the blanks around them. -/
structure Layout where
  before : List Char
  first : List Char
  afterFirst : List Char
  beforeSecond : List Char
  second : List Char
  after : List Char
deriving DecidableEq, Repr

namespace Layout

def text (layout : Layout) : List Char :=
  layout.before ++ layout.first ++ layout.afterFirst ++
    '-' :: (layout.beforeSecond ++ layout.second ++ layout.after)

structure Spells (layout : Layout) (s : Subtraction) : Prop where
  blanksBefore : Blanks layout.before
  blanksAfterFirst : Blanks layout.afterFirst
  blanksBeforeSecond : Blanks layout.beforeSecond
  blanksAfter : Blanks layout.after
  minuend : s.minuend.SpelledBy layout.first
  subtrahend : s.subtrahend.SpelledBy layout.second

def left (layout : Layout) (written : WrittenLiteral) : Operand :=
  ⟨⟨byteCount layout.before, byteCount (layout.before ++ layout.first)⟩, written⟩

def frontOfSecond (layout : Layout) : List Char :=
  layout.before ++ layout.first ++ layout.afterFirst ++ '-' :: layout.beforeSecond

def right (layout : Layout) (written : WrittenLiteral) : Operand :=
  ⟨⟨byteCount layout.frontOfSecond, byteCount (layout.frontOfSecond ++ layout.second)⟩, written⟩

theorem text_eq (layout : Layout) :
    layout.text = layout.frontOfSecond ++ layout.second ++ layout.after := by
  simp [text, frontOfSecond]

theorem Spells.exists_ends {layout : Layout} {s : Subtraction} (spells : layout.Spells s) :
    ∃ first second : WrittenLiteral, first.denote = .ok s.minuend ∧
      second.denote = .ok s.subtrahend ∧
        EndsSubtrahend (layout.left first) (layout.right second) layout.text := by
  obtain ⟨first, spelledFirst, denotesFirst⟩ := Literal.spelledBy_iff.mp spells.minuend
  obtain ⟨second, spelledSecond, denotesSecond⟩ := Literal.spelledBy_iff.mp spells.subtrahend
  exact ⟨first, second, denotesFirst, denotesSecond, layout.frontOfSecond, layout.second,
    layout.after,
    endsMinus_of_parts spells.blanksBefore spelledFirst spells.blanksAfterFirst
      spells.blanksBeforeSecond,
    ⟨spelledSecond, rfl⟩, spells.blanksAfter, layout.text_eq⟩

theorem exists_of_endsSubtrahend {minuend subtrahend : Operand} {text : List Char}
    {s : Subtraction} (ends : EndsSubtrahend minuend subtrahend text)
    (denotesFirst : minuend.written.denote = .ok s.minuend)
    (denotesSecond : subtrahend.written.denote = .ok s.subtrahend) :
    ∃ layout : Layout, layout.text = text ∧ layout.Spells s := by
  obtain ⟨_, second, after, ⟨_, beforeSecond, ⟨before, first, afterFirst, blanksBefore,
    ⟨spelledFirst, _⟩, blanksAfterFirst, rfl⟩, blanksBeforeSecond, rfl⟩, ⟨spelledSecond, _⟩,
    blanksAfter, rfl⟩ := ends
  exact ⟨⟨before, first, afterFirst, beforeSecond, second, after⟩, by simp [Layout.text],
    blanksBefore, blanksAfterFirst, blanksBeforeSecond, blanksAfter,
    Literal.spelledBy_iff.mpr ⟨_, spelledFirst, denotesFirst⟩,
    Literal.spelledBy_iff.mpr ⟨_, spelledSecond, denotesSecond⟩⟩

end Layout

theorem blanks_unique {gap other rest later : List Char} (blanks : Blanks gap)
    (otherBlanks : Blanks other) (same : gap ++ '-' :: rest = other ++ '-' :: later) :
    gap = other ∧ rest = later := by
  induction gap generalizing other with
  | nil =>
      cases other with
      | nil => exact ⟨rfl, (List.cons.inj same).2⟩
      | cons c others =>
          have sign : '-' = c := (List.cons.inj same).1
          have blank := otherBlanks c (by simp)
          rw [← sign] at blank
          exact absurd blank (by decide)
  | cons c gap ih =>
      cases other with
      | nil =>
          have sign : c = '-' := (List.cons.inj same).1
          have blank := blanks c (by simp)
          rw [sign] at blank
          exact absurd blank (by decide)
      | cons d others =>
          obtain ⟨rfl, tails⟩ := List.cons.inj same
          obtain ⟨rfl, rfl⟩ := ih (fun e member => blanks e (by simp [member]))
            (fun e member => otherBlanks e (by simp [member])) tails
          exact ⟨rfl, rfl⟩

theorem Stage.Settles.unique {form : Form} {text : List Char} {stage other : Stage}
    (settles : Stage.Settles form text stage) (otherSettles : Stage.Settles form text other) :
    stage = other := by
  obtain ⟨raw, reached, ended⟩ := settles
  obtain ⟨raw', reached', ended'⟩ := otherSettles
  rw [reached] at reached'
  cases reached'
  exact Option.some.inj (ended.symm.trans ended')

theorem Layout.eq_of_places {layout other : Layout} {s s' : Subtraction}
    (spells : layout.Spells s) (otherSpells : other.Spells s') (same : layout.text = other.text)
    {first second first' second' : WrittenLiteral}
    (left : layout.left first = other.left first')
    (right : layout.right second = other.right second') : layout = other := by
  have startLeft := congrArg (fun operand : Operand => operand.span.start) left
  have stopLeft := congrArg (fun operand : Operand => operand.span.stop) left
  have startRight := congrArg (fun operand : Operand => operand.span.start) right
  have stopRight := congrArg (fun operand : Operand => operand.span.stop) right
  obtain ⟨before, first, afterFirst, beforeSecond, second, after⟩ := layout
  obtain ⟨before', first', afterFirst', beforeSecond', second', after'⟩ := other
  have blanks := spells.blanksAfterFirst
  have otherBlanks := otherSpells.blanksAfterFirst
  simp only [Layout.left, Layout.right, Layout.frontOfSecond, Layout.text] at *
  obtain rfl : before = before' :=
    eq_of_byteCount_eq (by simpa only [List.append_assoc] using same) startLeft
  obtain rfl : first = first' := by
    apply List.append_cancel_left
    exact eq_of_byteCount_eq (by simpa only [List.append_assoc] using same) stopLeft
  -- The second operand does not say where the sign before it stands: the blanks do.
  have fronts := eq_of_byteCount_eq (by simpa using same) startRight
  simp only [List.append_assoc, List.append_cancel_left_eq] at fronts
  obtain ⟨rfl, rfl⟩ := blanks_unique blanks otherBlanks fronts
  obtain rfl : second = second' := by
    apply List.append_cancel_left
    exact eq_of_byteCount_eq (by simpa using same) stopRight
  obtain rfl : after = after' := by simpa using same
  rfl

/-- The reader accepts what can be laid out, and there is one layout. -/
theorem parse_ok_iff_layout (text : String) (s : Subtraction) :
    (parse text = .ok s ↔ ∃ layout : Layout, layout.text = text.toList ∧ layout.Spells s) ∧
      ∀ (layout other : Layout) (s' : Subtraction),
        layout.text = text.toList → layout.Spells s → other.text = text.toList →
          other.Spells s' → layout = other ∧ s = s' := by
  constructor
  · constructor
    · intro accepted
      obtain ⟨minuend, subtrahend, ends, denoted⟩ := parse_eq_ok_iff.mp accepted
      exact Layout.exists_of_endsSubtrahend ends denoted.1 denoted.2
    · intro laidOut
      obtain ⟨layout, whole, spells⟩ := laidOut
      obtain ⟨first, second, denotesFirst, denotesSecond, ends⟩ := spells.exists_ends
      rw [whole] at ends
      exact parse_eq_ok_iff.mpr ⟨_, _, ends, denotesFirst, denotesSecond⟩
  · intro layout other s' whole spells otherWhole otherSpells
    obtain ⟨first, second, denotesFirst, denotesSecond, ends⟩ := spells.exists_ends
    obtain ⟨first', second', denotesFirst', denotesSecond', otherEnds⟩ := otherSpells.exists_ends
    rw [whole] at ends
    rw [otherWhole] at otherEnds
    have settles : Stage.Settles .expression text.toList _ := Stage.settles_of_endsSubtrahend ends
    have same := settles.unique (Stage.settles_of_endsSubtrahend otherEnds)
    simp only [Stage.afterSubtrahend.injEq] at same
    obtain ⟨left, right⟩ := same
    refine ⟨Layout.eq_of_places spells otherSpells (whole.trans otherWhole.symm) left right, ?_⟩
    cases (congrArg Operand.written left : first = first')
    cases (congrArg Operand.written right : second = second')
    have minuends := Except.ok.inj (denotesFirst.symm.trans denotesFirst')
    have subtrahends := Except.ok.inj (denotesSecond.symm.trans denotesSecond')
    cases s
    cases s'
    simp only at minuends subtrahends
    rw [minuends, subtrahends]

end SignedDifference
