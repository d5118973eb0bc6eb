/-!
# Lines of a text

A text is cut after each line terminator, which stays with its line; a carriage return and a line
feed that follows it are one terminator.
-/

set_option autoImplicit false

namespace SignedDifference.Text

def isLineEnd (c : Char) : Bool :=
  let n := c.toNat
  (0xA ≤ n && n ≤ 0xD) || n == 0x85 || n == 0x2028 || n == 0x2029

def prependChar (c : Char) : List (List Char) → List (List Char)
  | [] => [[c]]
  | line :: lines => (c :: line) :: lines

def splitLines : List Char → List (List Char)
  | [] => []
  | [c] => [[c]]
  | c :: d :: rest =>
      if isLineEnd c && !(c == '\r' && d == '\n') then [c] :: splitLines (d :: rest)
      else prependChar c (splitLines (d :: rest))

structure LineStart where
  number : Nat
  start : Nat
deriving DecidableEq, Repr, Inhabited

/-- The line that a character position falls in; a position past the end falls in the last line. -/
def lineAt (position : Nat) : Nat → Nat → List (List Char) → LineStart
  | number, start, [] | number, start, [_] => ⟨number, start⟩
  | number, start, line :: later =>
      if position < start + line.length then ⟨number, start⟩
      else lineAt position (number + 1) (start + line.length) later

theorem flatten_prependChar (c : Char) (lines : List (List Char)) :
    (prependChar c lines).flatten = c :: lines.flatten := by
  cases lines <;> rfl

theorem flatten_splitLines (text : List Char) : (splitLines text).flatten = text := by
  induction text with
  | nil => rfl
  | cons c rest ih =>
      cases rest with
      | nil => rfl
      | cons d later =>
          rw [splitLines]
          split
          · rw [List.flatten_cons, ih]; rfl
          · rw [flatten_prependChar, ih]

/-- The line that a position falls in starts where the lines before it end, and not after the
position. -/
theorem lineAt_spec {position : Nat} (lines : List (List Char)) :
    ∀ number start, start ≤ position →
      number ≤ (lineAt position number start lines).number ∧
        (lineAt position number start lines).start =
          start +
            (lines.take ((lineAt position number start lines).number - number)).flatten.length ∧
        (lineAt position number start lines).start ≤ position := by
  induction lines with
  | nil =>
      intro number start before
      simp [lineAt, before]
  | cons line later ih =>
      intro number start before
      cases later with
      | nil => simp [lineAt, before]
      | cons next later =>
          simp only [lineAt]
          split
          · simp [before]
          · rename_i beyond
            obtain ⟨less, placed, within⟩ := ih (number + 1) (start + line.length) (by omega)
            refine ⟨by omega, ?_, within⟩
            obtain ⟨more, same⟩ := Nat.exists_eq_add_of_le less
            rw [placed, same, Nat.add_sub_cancel_left,
              show number + 1 + more - number = more + 1 by omega, List.take_succ_cons,
              List.flatten_cons, List.length_append, Nat.add_assoc]

end SignedDifference.Text
