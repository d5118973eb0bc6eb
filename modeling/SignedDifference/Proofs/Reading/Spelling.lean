import Mathlib.Data.List.Basic
import Mathlib.Data.List.Induction
import SignedDifference.Reading.PartialLiteral

/-!
# Spellings, one character at a time

What the beginning of a literal stands for, said of its characters.  Every beginning with one more
character is a step of `PartialLiteral.extend?` and the other way round (`standsFor_concat`), so the
characters of a literal determine what is under way (`scan?_eq_some_iff`).  Each beginning can be
completed (`PartialLiteral.exists_completion`).
-/

set_option autoImplicit false

namespace SignedDifference

namespace WrittenLiteral

open Numeral (digit? value?)

theorem isDecimal_singleton {c : Char} {n : Nat} : IsDecimal [c] n ↔ digit? 10 c = some n := by
  simp only [IsDecimal, value?, Numeral.valueFrom?]
  cases digit? 10 c <;> simp

theorem isPattern_singleton {c : Char} {n : Nat} : IsPattern [c] n ↔ digit? 16 c = some n := by
  simp only [IsPattern, value?, Numeral.valueFrom?]
  cases digit? 16 c <;> simp

theorem digit?_ten_range {c : Char} {digit : Nat} (read : digit? 10 c = some digit) :
    48 ≤ c.toNat ∧ c.toNat ≤ 57 ∧ digit = c.toNat - 48 := by
  rw [Numeral.digit?_eq_some_iff, Numeral.digitOfChar_eq_some_iff] at read
  omega

theorem digit?_ten_eq_zero {c : Char} (zero : digit? 10 c = some 0) : c = '0' := by
  have range := digit?_ten_range zero
  exact Char.toNat_inj.mp (by change c.toNat = 48; omega)

theorem IsDecimal.eq_zero {digits : List Char} (decimal : IsDecimal digits 0) : digits = ['0'] := by
  obtain ⟨nonempty, leading, value⟩ := decimal
  cases digits with
  | nil => exact absurd rfl nonempty
  | cons c rest =>
      simp only [value?, Numeral.valueFrom?, Nat.zero_mul, Nat.zero_add] at value
      split at value
      · rename_i digit read
        have digitZero : digit = 0 :=
          Nat.le_zero.mp (Numeral.le_of_valueFrom?_eq_some (by omega) value)
        rw [digitZero] at read
        exact leading (by rw [digit?_ten_eq_zero read]; rfl)
      · simp at value

theorem head?_concat {digits : List Char} (nonempty : digits ≠ []) (c : Char) :
    (digits ++ [c]).head? = digits.head? := by
  cases digits with
  | nil => exact absurd rfl nonempty
  | cons d rest => rfl

theorem value?_concat_eq_some_iff {base n : Nat} {digits : List Char} {c : Char} :
    value? base (digits ++ [c]) = some n ↔
      ∃ m digit, value? base digits = some m ∧ digit? base c = some digit ∧
        n = m * base + digit := by
  simp only [value?, Numeral.valueFrom?_concat, Option.bind_eq_some_iff, Option.map_eq_some_iff]
  constructor
  · intro value
    obtain ⟨m, found, digit, read, rfl⟩ := value
    exact ⟨m, digit, found, read, rfl⟩
  · intro parts
    obtain ⟨m, digit, found, read, rfl⟩ := parts
    exact ⟨m, found, digit, read, rfl⟩

theorem isDecimal_concat {digits : List Char} (nonempty : digits ≠ []) {c : Char} {n : Nat} :
    IsDecimal (digits ++ [c]) n ↔
      ∃ m digit, IsDecimal digits m ∧ m ≠ 0 ∧ digit? 10 c = some digit ∧ n = m * 10 + digit := by
  have joined : digits ++ [c] ≠ ['0'] := by
    intro same
    have lengths := congrArg List.length same
    have positive := List.length_pos_iff.mpr nonempty
    simp only [List.length_append, List.length_singleton] at lengths
    omega
  constructor
  · intro decimal
    obtain ⟨_, leading, value⟩ := decimal
    obtain ⟨m, digit, found, read, rfl⟩ := value?_concat_eq_some_iff.mp value
    rw [head?_concat nonempty] at leading
    have decimal : IsDecimal digits m :=
      ⟨nonempty, fun zero => absurd (leading zero) joined, found⟩
    refine ⟨m, digit, decimal, ?_, read, rfl⟩
    rintro rfl
    exact joined (leading (by rw [decimal.eq_zero]; rfl))
  · intro parts
    obtain ⟨m, digit, ⟨_, leading, found⟩, positive, read, rfl⟩ := parts
    refine ⟨by simp, ?_, value?_concat_eq_some_iff.mpr ⟨m, digit, found, read, rfl⟩⟩
    intro zero
    rw [head?_concat nonempty] at zero
    rw [leading zero] at found
    exact absurd (Option.some.inj found).symm positive

theorem isPattern_concat {digits : List Char} (nonempty : digits ≠ []) {c : Char} {n : Nat} :
    IsPattern (digits ++ [c]) n ↔
      ∃ m digit, IsPattern digits m ∧ digit? 16 c = some digit ∧ n = m * 16 + digit := by
  constructor
  · intro pattern
    obtain ⟨_, value⟩ := pattern
    obtain ⟨m, digit, found, read, rfl⟩ := value?_concat_eq_some_iff.mp value
    exact ⟨m, digit, ⟨nonempty, found⟩, read, rfl⟩
  · intro parts
    obtain ⟨m, digit, ⟨_, found⟩, read, rfl⟩ := parts
    exact ⟨by simp, value?_concat_eq_some_iff.mpr ⟨m, digit, found, read, rfl⟩⟩

end WrittenLiteral

namespace PartialLiteral

open Numeral (digit?)
open WrittenLiteral

/-- The characters are the beginning of a literal that has been read. -/
def StandsFor : PartialLiteral → List Char → Prop
  | .sign, token => token = ['-']
  | .hexMark, token => ∃ mark, (mark = 'x' ∨ mark = 'X') ∧ token = ['0', mark]
  | .m, token => token = ['M']
  | .mi, token => token = ['M', 'I']
  | .ma, token => token = ['M', 'A']
  | .whole written, token => written.SpelledBy token

theorem StandsFor.nonempty {literal : PartialLiteral} {token : List Char}
    (stands : literal.StandsFor token) : token ≠ [] := by
  rintro rfl
  cases literal with
  | sign | m | mi | ma => simp [StandsFor] at stands
  | hexMark => obtain ⟨mark, _, same⟩ := stands; simp at same
  | whole written =>
      cases written with
      | decimal negative magnitude =>
          cases negative with
          | false => exact stands.1 rfl
          | true => obtain ⟨digits, same, _⟩ := stands; simp at same
      | pattern bits => obtain ⟨mark, digits, _, same, _⟩ := stands; simp at same
      | min | max => simp [StandsFor, SpelledBy] at stands

theorem standsFor_begin {literal : PartialLiteral} {c : Char} (begun : begin? c = some literal) :
    literal.StandsFor [c] := by
  unfold begin? at begun
  split at begun
  · rename_i sign
    cases begun
    exact congrArg (fun first => [first]) sign
  · split at begun
    · rename_i letter
      cases begun
      exact congrArg (fun first => [first]) letter
    · obtain ⟨digit, read, rfl⟩ := Option.map_eq_some_iff.mp begun
      exact isDecimal_singleton.mpr read

theorem standsFor_extend {literal extended : PartialLiteral} {token : List Char} {c : Char}
    (stands : literal.StandsFor token) (taken : literal.extend? c = some extended) :
    extended.StandsFor (token ++ [c]) := by
  cases literal with
  | sign =>
      obtain ⟨digit, read, rfl⟩ := Option.map_eq_some_iff.mp taken
      cases stands
      exact ⟨[c], rfl, isDecimal_singleton.mpr read⟩
  | hexMark =>
      obtain ⟨digit, read, rfl⟩ := Option.map_eq_some_iff.mp taken
      obtain ⟨mark, marked, rfl⟩ := stands
      exact ⟨mark, [c], marked, rfl, isPattern_singleton.mpr read⟩
  | m =>
      cases stands
      simp only [extend?] at taken
      split at taken
      · rename_i letter; cases taken; rw [letter]; rfl
      · split at taken
        · rename_i letter; cases taken; rw [letter]; rfl
        · simp at taken
  | mi =>
      cases stands
      simp only [extend?, Option.ite_none_right_eq_some, Option.some.injEq] at taken
      obtain ⟨rfl, rfl⟩ := taken
      rfl
  | ma =>
      cases stands
      simp only [extend?, Option.ite_none_right_eq_some, Option.some.injEq] at taken
      obtain ⟨rfl, rfl⟩ := taken
      rfl
  | whole written =>
      have nonempty := stands.nonempty
      cases written with
      | decimal negative magnitude =>
          simp only [extend?, extendWhole?] at taken
          split at taken
          · rename_i zero
            simp only [Option.ite_none_right_eq_some, Option.some.injEq] at taken
            obtain ⟨⟨rfl, marked⟩, rfl⟩ := taken
            rw [zero] at stands
            exact ⟨c, marked, by rw [IsDecimal.eq_zero stands]; rfl⟩
          · rename_i positive
            obtain ⟨digit, read, rfl⟩ := Option.map_eq_some_iff.mp taken
            cases negative with
            | false =>
                exact (isDecimal_concat nonempty).mpr
                  ⟨magnitude, digit, stands, positive, read, rfl⟩
            | true =>
                obtain ⟨digits, rfl, decimal⟩ := stands
                exact ⟨digits ++ [c], rfl, (isDecimal_concat decimal.1).mpr
                  ⟨magnitude, digit, decimal, positive, read, rfl⟩⟩
      | pattern bits =>
          obtain ⟨digit, read, rfl⟩ := Option.map_eq_some_iff.mp taken
          obtain ⟨mark, digits, marked, rfl, pattern⟩ := stands
          exact ⟨mark, digits ++ [c], marked, rfl,
            (isPattern_concat pattern.1).mpr ⟨bits, digit, pattern, read, rfl⟩⟩
      | min | max => simp [extend?, extendWhole?] at taken

theorem eq_of_concat_eq {token : List Char} {c d : Char} (front : List Char)
    (same : token ++ [c] = front ++ [d]) : token = front ∧ c = d := by
  have parts := List.append_inj' same rfl
  exact ⟨parts.1, (List.cons.inj parts.2).1⟩

theorem exists_earlier_of_spelledBy {written : WrittenLiteral} {token : List Char} {c : Char}
    (nonempty : token ≠ []) (spelled : written.SpelledBy (token ++ [c])) :
    ∃ earlier : PartialLiteral,
      earlier.StandsFor token ∧ earlier.extend? c = some (.whole written) := by
  cases written with
  | decimal negative magnitude =>
      cases negative with
      | false =>
          obtain ⟨m, digit, decimal, positive, read, rfl⟩ := (isDecimal_concat nonempty).mp spelled
          exact ⟨.whole (.decimal false m), decimal,
            by simp [extend?, extendWhole?, positive, read]⟩
      | true =>
          obtain ⟨digits, same, decimal⟩ := spelled
          obtain ⟨front, d, rfl⟩ := (List.eq_nil_or_concat' digits).resolve_left decimal.1
          obtain ⟨rfl, rfl⟩ := eq_of_concat_eq ('-' :: front) same
          by_cases first : front = []
          · rw [first] at decimal ⊢
            exact ⟨.sign, rfl, by simp [extend?, isDecimal_singleton.mp decimal]⟩
          · obtain ⟨m, digit, shorter, positive, read, rfl⟩ := (isDecimal_concat first).mp decimal
            exact ⟨.whole (.decimal true m), ⟨front, rfl, shorter⟩,
              by simp [extend?, extendWhole?, positive, read]⟩
  | pattern bits =>
      obtain ⟨mark, digits, marked, same, pattern⟩ := spelled
      obtain ⟨front, d, rfl⟩ := (List.eq_nil_or_concat' digits).resolve_left pattern.1
      obtain ⟨rfl, rfl⟩ := eq_of_concat_eq ('0' :: mark :: front) same
      by_cases first : front = []
      · rw [first] at pattern ⊢
        exact ⟨.hexMark, ⟨mark, marked, rfl⟩, by simp [extend?, isPattern_singleton.mp pattern]⟩
      · obtain ⟨m, digit, shorter, read, rfl⟩ := (isPattern_concat first).mp pattern
        exact ⟨.whole (.pattern m), ⟨mark, front, marked, rfl, shorter⟩,
          by simp [extend?, extendWhole?, read]⟩
  | min =>
      obtain ⟨rfl, rfl⟩ := eq_of_concat_eq ['M', 'I'] spelled
      exact ⟨.mi, rfl, rfl⟩
  | max =>
      obtain ⟨rfl, rfl⟩ := eq_of_concat_eq ['M', 'A'] spelled
      exact ⟨.ma, rfl, rfl⟩

/-- What a literal was before its last character. -/
theorem exists_earlier {literal : PartialLiteral} {token : List Char} {c : Char}
    (nonempty : token ≠ []) (stands : literal.StandsFor (token ++ [c])) :
    ∃ earlier : PartialLiteral, earlier.StandsFor token ∧ earlier.extend? c = some literal := by
  cases literal with
  | sign => exact absurd (eq_of_concat_eq [] stands).1 nonempty
  | m => exact absurd (eq_of_concat_eq [] stands).1 nonempty
  | hexMark =>
      obtain ⟨mark, marked, same⟩ := stands
      obtain ⟨rfl, rfl⟩ := eq_of_concat_eq ['0'] same
      refine ⟨.whole (.decimal false 0), isDecimal_singleton.mpr (by decide), ?_⟩
      simp [extend?, extendWhole?, marked]
  | mi =>
      obtain ⟨rfl, rfl⟩ := eq_of_concat_eq ['M'] stands
      exact ⟨.m, rfl, rfl⟩
  | ma =>
      obtain ⟨rfl, rfl⟩ := eq_of_concat_eq ['M'] stands
      exact ⟨.m, rfl, rfl⟩
  | whole written => exact exists_earlier_of_spelledBy nonempty stands

theorem standsFor_singleton {literal : PartialLiteral} {c : Char} :
    literal.StandsFor [c] ↔ begin? c = some literal := by
  refine ⟨fun stands => ?_, standsFor_begin⟩
  cases literal with
  | sign => cases stands; rfl
  | m => cases stands; rfl
  | hexMark => obtain ⟨mark, _, same⟩ := stands; simp at same
  | mi | ma => simp [StandsFor] at stands
  | whole written =>
      cases written with
      | decimal negative magnitude =>
          cases negative with
          | false =>
              have read := isDecimal_singleton.mp stands
              have range := digit?_ten_range read
              have notSign : c ≠ '-' := by rintro rfl; exact absurd range.1 (by decide)
              have notLetter : c ≠ 'M' := by rintro rfl; exact absurd range.2.1 (by decide)
              simp [begin?, notSign, notLetter, read]
          | true =>
              obtain ⟨digits, same, nonempty, _⟩ := stands
              exact absurd (List.cons.inj same).2.symm nonempty
      | pattern bits => obtain ⟨mark, digits, _, same, _⟩ := stands; simp at same
      | min | max => simp [StandsFor, SpelledBy] at stands

theorem standsFor_concat {literal : PartialLiteral} {token : List Char} {c : Char}
    (nonempty : token ≠ []) :
    literal.StandsFor (token ++ [c]) ↔
      ∃ earlier : PartialLiteral, earlier.StandsFor token ∧ earlier.extend? c = some literal :=
  ⟨exists_earlier nonempty, fun ⟨_, stands, taken⟩ => standsFor_extend stands taken⟩

def scan? : List Char → Option PartialLiteral
  | [] => none
  | c :: rest =>
      (begin? c).bind fun literal => rest.foldlM (fun read next => read.extend? next) literal

theorem scan?_concat {token : List Char} (nonempty : token ≠ []) (c : Char) :
    scan? (token ++ [c]) = (scan? token).bind fun literal => literal.extend? c := by
  cases token with
  | nil => exact absurd rfl nonempty
  | cons first rest =>
      simp only [List.cons_append, scan?, List.foldlM_append, Option.bind_assoc]
      cases begin? first with
      | none => rfl
      | some literal => simp [List.foldlM]

theorem scan?_eq_some_iff {literal : PartialLiteral} {token : List Char} :
    scan? token = some literal ↔ literal.StandsFor token := by
  induction token using List.reverseRecOn generalizing literal with
  | nil => exact iff_of_false (by simp [scan?]) fun stands => stands.nonempty rfl
  | append_singleton token c ih =>
      by_cases first : token = []
      · rw [first, List.nil_append, standsFor_singleton]
        simp [scan?]
      · rw [standsFor_concat first, scan?_concat first, Option.bind_eq_some_iff]
        simp only [ih]

theorem StandsFor.unique {literal other : PartialLiteral} {token : List Char}
    (stands : literal.StandsFor token) (stands' : other.StandsFor token) : literal = other :=
  Option.some.inj ((scan?_eq_some_iff.mpr stands).symm.trans (scan?_eq_some_iff.mpr stands'))

theorem exists_completion {literal : PartialLiteral} {token : List Char}
    (stands : literal.StandsFor token) :
    ∃ (rest : List Char) (written : WrittenLiteral), written.SpelledBy (token ++ rest) := by
  cases literal with
  | sign => cases stands; exact ⟨['0'], .decimal true 0, ['0'], rfl, isDecimal_singleton.mpr rfl⟩
  | hexMark =>
      obtain ⟨mark, marked, rfl⟩ := stands
      exact ⟨['0'], .pattern 0, mark, ['0'], marked, rfl, isPattern_singleton.mpr rfl⟩
  | m => cases stands; exact ⟨['I', 'N'], .min, rfl⟩
  | mi => cases stands; exact ⟨['N'], .min, rfl⟩
  | ma => cases stands; exact ⟨['X'], .max, rfl⟩
  | whole written => exact ⟨[], written, by rwa [List.append_nil]⟩

end PartialLiteral

end SignedDifference
