/-!
# Blanks

The characters with the Unicode property White_Space.  They separate tokens, and lines and command
arguments are trimmed of them.
-/

set_option autoImplicit false

namespace SignedDifference.Text

def isBlank (c : Char) : Bool :=
  let n := c.toNat
  (0x9 ≤ n && n ≤ 0xD) || n == 0x20 || n == 0x85 || n == 0xA0 || n == 0x1680 ||
    (0x2000 ≤ n && n ≤ 0x200A) || n == 0x2028 || n == 0x2029 || n == 0x202F || n == 0x205F ||
    n == 0x3000

def trimStart (text : List Char) : List Char :=
  text.dropWhile isBlank

def trimEnd (text : List Char) : List Char :=
  (text.reverse.dropWhile isBlank).reverse

def trim (text : List Char) : List Char :=
  trimEnd (trimStart text)

theorem toNat_of_isBlank {c : Char} (blank : isBlank c = true) : c.toNat ≤ 32 ∨ 133 ≤ c.toNat := by
  simp only [isBlank, Bool.or_eq_true, Bool.and_eq_true, decide_eq_true_eq, beq_iff_eq] at blank
  omega

/-! ## Trimming -/

theorem trimStart_append {gap : List Char} (blanks : ∀ c ∈ gap, isBlank c = true)
    (text : List Char) : trimStart (gap ++ text) = trimStart text :=
  List.dropWhile_append_of_pos blanks

theorem trimStart_eq_self {text : List Char}
    (bare : ∀ c, text.head? = some c → isBlank c = false) : trimStart text = text := by
  cases text with
  | nil => rfl
  | cons c rest => exact List.dropWhile_cons_of_neg (by simp [bare c rfl])

theorem trimEnd_eq (text : List Char) : trimEnd text = (trimStart text.reverse).reverse := rfl

theorem trim_append {before word after : List Char} (blanksBefore : ∀ c ∈ before, isBlank c = true)
    (blanksAfter : ∀ c ∈ after, isBlank c = true) (nonempty : word ≠ [])
    (first : ∀ c, word.head? = some c → isBlank c = false)
    (last : ∀ c, word.getLast? = some c → isBlank c = false) :
    trim (before ++ word ++ after) = word := by
  have started : trimStart (word ++ after) = word ++ after := by
    apply trimStart_eq_self
    intro c found
    obtain ⟨d, rest, rfl⟩ := List.exists_cons_of_ne_nil nonempty
    exact first c found
  have reversed : ∀ c ∈ after.reverse, isBlank c = true := by
    intro c member
    exact blanksAfter c (List.mem_reverse.mp member)
  have ended : trimStart word.reverse = word.reverse := by
    apply trimStart_eq_self
    intro c found
    rw [List.head?_reverse] at found
    exact last c found
  rw [trim, List.append_assoc, trimStart_append blanksBefore, started,
    trimEnd_eq, List.reverse_append, trimStart_append reversed, ended, List.reverse_reverse]

theorem exists_append_trim (text : List Char) :
    ∃ before after, (∀ c ∈ before, isBlank c = true) ∧ (∀ c ∈ after, isBlank c = true) ∧
      text = before ++ trim text ++ after := by
  refine ⟨text.takeWhile isBlank, ((trimStart text).reverse.takeWhile isBlank).reverse, ?_, ?_, ?_⟩
  · intro c member
    exact List.all_eq_true.mp List.all_takeWhile c member
  · intro c member
    exact List.all_eq_true.mp List.all_takeWhile c (List.mem_reverse.mp member)
  · have cut : trimEnd (trimStart text) ++ ((trimStart text).reverse.takeWhile isBlank).reverse =
        trimStart text := by
      rw [trimEnd, ← List.reverse_append, List.takeWhile_append_dropWhile, List.reverse_reverse]
    rw [trim, List.append_assoc, cut, trimStart, List.takeWhile_append_dropWhile]

end SignedDifference.Text
