import SignedDifference.Proofs.Generator.Draws

/-!
# Streams of cases

A draw takes the next words of its source, as many as those words ask for, and looks at no others
(`Reads`).  An operand takes two words to four and a case four to eight (`takes_drawCase`).  So
cases are drawn in turn: a source goes on where the cases drawn before have left it, and they are
settled by the words that they took (`cases_drawn_in_turn`).
-/

set_option autoImplicit false

namespace SignedDifference

namespace WordSource

/-- The word that is taken after as many others. -/
def ahead (source : WordSource) (index : Nat) : UInt64 :=
  source.word (source.used + index)

def skip (source : WordSource) (count : Nat) : WordSource :=
  { source with used := source.used + count }

/-- The sources go on with the same words, as many as are said. -/
def AgreeOn (count : Nat) (source other : WordSource) : Prop :=
  ∀ index < count, other.ahead index = source.ahead index

instance (count : Nat) (source other : WordSource) : Decidable (AgreeOn count source other) :=
  inferInstanceAs (Decidable (∀ index < count, _))

variable {source other : WordSource} {first second : Nat}

theorem take_eq (source : WordSource) : source.take = (source.ahead 0, source.skip 1) := rfl

theorem skip_skip (source : WordSource) (first second : Nat) :
    (source.skip first).skip second = source.skip (first + second) := by
  simp only [skip, Nat.add_assoc]

theorem ahead_skip (source : WordSource) (count index : Nat) :
    (source.skip count).ahead index = source.ahead (count + index) := by
  simp only [ahead, skip, Nat.add_assoc]

theorem AgreeOn.front (agree : AgreeOn (first + second) source other) :
    AgreeOn first source other := by
  intro index before
  exact agree index (by omega)

theorem AgreeOn.back (agree : AgreeOn (first + second) source other) :
    AgreeOn second (source.skip first) (other.skip first) := by
  intro index before
  rw [ahead_skip, ahead_skip]
  exact agree (first + index) (by omega)

end WordSource

namespace Generator

open WordSource (AgreeOn skip_skip take_eq)

variable {α β : Type} {draw : WordSource → α × WordSource} {next : α → WordSource → β × WordSource}
  {source : WordSource} {value : α} {result : β} {count first second least greatest : Nat}

/-- From the source, and from every source that goes on with the same words, the draw takes as many
words and gives the value. -/
def Reads (draw : WordSource → α × WordSource) (source : WordSource) (count : Nat) (value : α) :
    Prop :=
  ∀ other, AgreeOn count source other → draw other = (value, other.skip count)

/-- The draw takes so many words at least and at most, and looks at no others. -/
def Takes (least greatest : Nat) (draw : WordSource → α × WordSource) : Prop :=
  ∀ source, ∃ count value, least ≤ count ∧ count ≤ greatest ∧ Reads draw source count value

theorem Reads.eq (reads : Reads draw source count value) :
    draw source = (value, source.skip count) :=
  reads source fun _ _ => rfl

theorem Reads.andThen (reads : Reads draw source first value)
    (readsNext : Reads (next value) (source.skip first) second result) :
    Reads (fun source => next (draw source).1 (draw source).2) source (first + second) result := by
  intro other agree
  have drawn := reads other agree.front
  have drawnNext := readsNext (other.skip first) agree.back
  simp only [drawn, drawnNext, skip_skip]

theorem Takes.andThen {leastNext greatestNext : Nat} (takes : Takes least greatest draw)
    (takesNext : ∀ value, Takes leastNext greatestNext (next value)) :
    Takes (least + leastNext) (greatest + greatestNext)
      fun source => next (draw source).1 (draw source).2 := by
  intro source
  obtain ⟨first, value, low, high, reads⟩ := takes source
  obtain ⟨second, result, lowNext, highNext, readsNext⟩ := takesNext value (source.skip first)
  exact ⟨first + second, result, by omega, by omega, reads.andThen readsNext⟩

theorem Takes.weaken {lessLeast moreGreatest : Nat} (takes : Takes least greatest draw)
    (less : lessLeast ≤ least) (more : greatest ≤ moreGreatest) :
    Takes lessLeast moreGreatest draw := by
  intro source
  obtain ⟨count, value, low, high, reads⟩ := takes source
  exact ⟨count, value, by omega, by omega, reads⟩

theorem Takes.map (takes : Takes least greatest draw) (f : α → β) :
    Takes least greatest fun source => (f (draw source).1, (draw source).2) := by
  intro source
  obtain ⟨count, value, low, high, reads⟩ := takes source
  refine ⟨count, f value, low, high, ?_⟩
  intro other agree
  simp only [reads other agree]

theorem takes_nothing (value : α) : Takes 0 0 fun source => (value, source) := by
  intro source
  exact ⟨0, value, Nat.le_refl 0, Nat.le_refl 0, fun other _ => rfl⟩

theorem takes_take : Takes 1 1 WordSource.take := by
  intro source
  refine ⟨1, source.ahead 0, Nat.le_refl 1, Nat.le_refl 1, ?_⟩
  intro other agree
  rw [take_eq, agree 0 Nat.one_pos]

/-! ## Words of one operand -/

def highHalf (word : UInt64) : Nat :=
  word.toNat * (reach + 1) / 0x10000000000000000

def lowHalf (word : UInt64) : Nat :=
  word.toNat * (reach + 1) % 0x10000000000000000

def HasRoom (word : UInt64) : Prop :=
  lowHalf word ≤ 0x10000000000000000 - (reach + 1)

instance (word : UInt64) : Decidable (HasRoom word) :=
  inferInstanceAs (Decidable (_ ≤ _))

def carry (word further : UInt64) : Nat :=
  if 0x10000000000000000 ≤ lowHalf word + highHalf further then 1 else 0

theorem carry_le (word further : UInt64) : carry word further ≤ 1 := by
  rw [carry]
  split <;> omega

theorem drawOffset_of_hasRoom (room : HasRoom (source.ahead 0)) :
    drawOffset source = (highHalf (source.ahead 0), source.skip 1) :=
  if_pos room

theorem drawOffset_of_not_hasRoom (tight : ¬ HasRoom (source.ahead 0)) :
    drawOffset source =
      (highHalf (source.ahead 0) + carry (source.ahead 0) (source.ahead 1), source.skip 2) := by
  have drawn : drawOffset source =
      (if 0x10000000000000000 ≤ lowHalf (source.ahead 0) + highHalf (source.ahead 1) then
        highHalf (source.ahead 0) + 1 else highHalf (source.ahead 0), source.skip 2) :=
    if_neg tight
  rw [drawn, carry]
  split <;> rfl

theorem takes_drawOffset : Takes 1 2 drawOffset := by
  intro source
  by_cases room : HasRoom (source.ahead 0)
  · refine ⟨1, highHalf (source.ahead 0), by omega, by omega, ?_⟩
    intro other agree
    have first := agree 0 (by omega)
    rw [← first] at room ⊢
    exact drawOffset_of_hasRoom room
  · refine ⟨2, highHalf (source.ahead 0) + carry (source.ahead 0) (source.ahead 1), by omega,
      by omega, ?_⟩
    intro other agree
    have first := agree 0 (by omega)
    have second := agree 1 (by omega)
    rw [← first] at room
    rw [← first, ← second]
    exact drawOffset_of_not_hasRoom room

theorem takes_drawAnchor : Takes 1 1 drawAnchor :=
  takes_take.map Anchor.ofWord

theorem takes_operandAt (anchor : Anchor) (offset : Nat) : Takes 0 1 (operandAt anchor offset) := by
  cases anchor with
  | anywhere => exact (takes_take.map UInt64.toInt64).weaken (Nat.zero_le 1) (Nat.le_refl 1)
  | least => exact (takes_nothing _).weaken (Nat.le_refl 0) (Nat.zero_le 1)
  | greatest => exact (takes_nothing _).weaken (Nat.le_refl 0) (Nat.zero_le 1)
  | zero =>
      have signed := takes_take.map fun word : UInt64 =>
        if word.toNat < 0x8000000000000000 then Int64.ofNat offset else -Int64.ofNat offset
      exact signed.weaken (Nat.zero_le 1) (Nat.le_refl 1)

theorem takes_drawOperand : Takes 2 4 drawOperand :=
  takes_drawOffset.andThen fun offset => takes_drawAnchor.andThen fun anchor =>
    takes_operandAt anchor offset

theorem takes_drawCase : Takes 4 8 drawCase :=
  takes_drawOperand.andThen fun a =>
    takes_drawOperand.map fun b => Case.mk a b (Method.widened.subtract a b).overflowed

/-! ## Words of many cases -/

theorem takes_drawCases (count : Nat) : Takes (4 * count) (8 * count) (drawCases count) := by
  induction count with
  | zero => exact takes_nothing []
  | succ count ih =>
      have both := takes_drawCase.andThen fun case => ih.map fun cases => case :: cases
      exact both.weaken (by omega) (by omega)

def wordsUsed (count : Nat) (source : WordSource) : Nat :=
  (drawCases count source).2.used - source.used

theorem Reads.wordsUsed_eq {cases : List Case}
    (reads : Reads (drawCases count) source first cases) :
    wordsUsed count source = first := by
  rw [wordsUsed, reads.eq, WordSource.skip, Nat.add_sub_cancel_left]

theorem reads_drawCases (count : Nat) (source : WordSource) :
    Reads (drawCases count) source (wordsUsed count source) (drawCases count source).1 := by
  obtain ⟨taken, cases, _, _, reads⟩ := takes_drawCases count source
  rw [reads.wordsUsed_eq, reads.eq]
  exact reads

theorem wordsUsed_within (count : Nat) (source : WordSource) :
    4 * count ≤ wordsUsed count source ∧ wordsUsed count source ≤ 8 * count := by
  obtain ⟨taken, cases, low, high, reads⟩ := takes_drawCases count source
  rw [reads.wordsUsed_eq]
  exact ⟨low, high⟩

theorem drawCases_add (count more : Nat) : ∀ source : WordSource,
    drawCases (count + more) source =
      ((drawCases count source).1 ++ (drawCases more (drawCases count source).2).1,
        (drawCases more (drawCases count source).2).2) := by
  induction count with
  | zero => intro source; rw [Nat.zero_add]; rfl
  | succ count ih =>
      intro source
      rw [Nat.succ_add]
      simp only [drawCases, ih, List.cons_append]

theorem wordsUsed_add (count more : Nat) (source : WordSource) :
    wordsUsed (count + more) source =
      wordsUsed count source + wordsUsed more (source.skip (wordsUsed count source)) := by
  have first := (reads_drawCases count source).eq
  have rest := (reads_drawCases more (source.skip (wordsUsed count source))).eq
  have left : (drawCases (count + more) source).2 = source.skip
      (wordsUsed count source + wordsUsed more (source.skip (wordsUsed count source))) := by
    rw [drawCases_add, first]
    simp only
    rw [rest, skip_skip]
  rw [wordsUsed, left, WordSource.skip, Nat.add_sub_cancel_left]

/-- Many cases are the first of them and then the others, drawn from what the first left of the
source.  The words used add up, four to eight for each case, and every source that goes on with the
words of the first cases gives the same ones for as many words. -/
theorem cases_drawn_in_turn (source : WordSource) (count more : Nat) :
    drawCases (count + more) source =
        ((drawCases count source).1 ++ (drawCases more (drawCases count source).2).1,
          (drawCases more (drawCases count source).2).2) ∧
      (drawCases count source).2 = source.skip (wordsUsed count source) ∧
      wordsUsed (count + more) source =
        wordsUsed count source + wordsUsed more (drawCases count source).2 ∧
      (∀ index, wordsUsed index source + 4 ≤ wordsUsed (index + 1) source ∧
        wordsUsed (index + 1) source ≤ wordsUsed index source + 8) ∧
      ∀ other, AgreeOn (wordsUsed count source) source other →
        (drawCases count other).1 = (drawCases count source).1 ∧
          wordsUsed count other = wordsUsed count source := by
  have left := congrArg Prod.snd (reads_drawCases count source).eq
  refine ⟨drawCases_add count more source, left, ?_, ?_, ?_⟩
  · rw [left, wordsUsed_add]
  · intro index
    have within := wordsUsed_within 1 (source.skip (wordsUsed index source))
    have added := wordsUsed_add index 1 source
    omega
  · intro other agree
    have drawn := reads_drawCases count source other agree
    rw [wordsUsed, drawn, WordSource.skip, Nat.add_sub_cancel_left]
    exact ⟨rfl, rfl⟩

/-- Both offsets of this case take a second word, and both operands a last one.  What comes behind
its eight words makes no difference. -/
theorem case_of_eight_words :
    wordsUsed 1 (.cyclic [0x3333333333333333, 0xFFFFFFFFFFFFFFFF, 0, 42,
        0xCCCCCCCCCCCCCCCC, 0, 0xC0000000, 5]) = 8 ∧
      (drawCases 1 (.cyclic [0x3333333333333333, 0xFFFFFFFFFFFFFFFF, 0, 42,
        0xCCCCCCCCCCCCCCCC, 0, 0xC0000000, 5, 7])).1 = [⟨42, 3, false⟩] := by
  have used : wordsUsed 1 (.cyclic [0x3333333333333333, 0xFFFFFFFFFFFFFFFF, 0, 42,
      0xCCCCCCCCCCCCCCCC, 0, 0xC0000000, 5]) = 8 := by decide
  have drawn : (drawCases 1 (.cyclic [0x3333333333333333, 0xFFFFFFFFFFFFFFFF, 0, 42,
      0xCCCCCCCCCCCCCCCC, 0, 0xC0000000, 5])).1 = [⟨42, 3, false⟩] := by decide
  obtain ⟨_, _, _, _, settled⟩ := cases_drawn_in_turn (.cyclic [0x3333333333333333,
    0xFFFFFFFFFFFFFFFF, 0, 42, 0xCCCCCCCCCCCCCCCC, 0, 0xC0000000, 5]) 1 0
  rw [used, drawn] at settled
  exact ⟨used, (settled _ (by decide)).1⟩

end Generator

end SignedDifference
