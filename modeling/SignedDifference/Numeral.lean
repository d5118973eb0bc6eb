/-!
# Numerals

Whole numbers written in a base of at most sixteen, most significant digit first and without
leading zeros, and read back from digit characters.  Letters are written in upper case and read in
either case.  Reading a written numeral gives the number again (`value?_digits`), also with its
letters in lower case (`value?_map_toUpper`) and behind zeros (`value?_zeros_append`).  So numbers
that are written alike are the same (`decimal_inj`).
-/

set_option autoImplicit false

namespace SignedDifference.Numeral

def digitChar (digit : Nat) : Char :=
  if digit < 10 then Char.ofNat (digit + 48) else Char.ofNat (digit + 55)

/-- The number that a digit character stands for, in bases up to sixteen. -/
def digitOfChar (c : Char) : Option Nat :=
  if '0' ≤ c ∧ c ≤ '9' then some (c.toNat - 48)
  else if 'A' ≤ c ∧ c ≤ 'F' then some (c.toNat - 55)
  else if 'a' ≤ c ∧ c ≤ 'f' then some (c.toNat - 87)
  else none

def digit? (base : Nat) (c : Char) : Option Nat :=
  (digitOfChar c).filter (· < base)

def digits (base n : Nat) : List Char :=
  if n < base ∨ base < 2 then [digitChar n]
  else digits base (n / base) ++ [digitChar (n % base)]
termination_by n
decreasing_by exact Nat.div_lt_self (by omega) (by omega)

/-- The number reached from `read` by reading further digits. -/
def valueFrom? (base : Nat) : Nat → List Char → Option Nat
  | read, [] => some read
  | read, c :: rest =>
      match digit? base c with
      | some digit => valueFrom? base (read * base + digit) rest
      | none => none

def value? (base : Nat) (text : List Char) : Option Nat :=
  valueFrom? base 0 text

/-- A signed decimal; only a negative number carries a sign. -/
def decimal : Int → String
  | .ofNat n => String.ofList (digits 10 n)
  | .negSucc n => String.ofList ('-' :: digits 10 (n + 1))

def hexadecimal (n : Nat) : String :=
  String.ofList (digits 16 n)

/-! ## Writing and reading -/

theorem valueFrom?_append (base : Nat) :
    ∀ (front back : List Char) (read : Nat),
      valueFrom? base read (front ++ back) =
        (valueFrom? base read front).bind fun value => valueFrom? base value back := by
  intro front back
  induction front with
  | nil => intro read; rfl
  | cons c rest ih =>
      intro read
      simp only [List.cons_append, valueFrom?]
      cases digit? base c with
      | none => rfl
      | some digit => exact ih _

theorem digitOfChar_eq_some_iff {c : Char} {digit : Nat} :
    digitOfChar c = some digit ↔
      (48 ≤ c.toNat ∧ c.toNat ≤ 57 ∧ digit = c.toNat - 48) ∨
        (65 ≤ c.toNat ∧ c.toNat ≤ 70 ∧ digit = c.toNat - 55) ∨
        (97 ≤ c.toNat ∧ c.toNat ≤ 102 ∧ digit = c.toNat - 87) := by
  simp only [digitOfChar, Char.le_def, UInt32.le_iff_toNat_le, ← Char.toNat_val]
  simp only [show '0'.val.toNat = 48 from rfl, show '9'.val.toNat = 57 from rfl,
    show 'A'.val.toNat = 65 from rfl, show 'F'.val.toNat = 70 from rfl,
    show 'a'.val.toNat = 97 from rfl, show 'f'.val.toNat = 102 from rfl]
  split
  · simp only [Option.some.injEq]; omega
  · split
    · simp only [Option.some.injEq]; omega
    · split
      · simp only [Option.some.injEq]; omega
      · exact iff_of_false (by simp) (by omega)

theorem digit?_eq_some_iff {base digit : Nat} {c : Char} :
    digit? base c = some digit ↔ digitOfChar c = some digit ∧ digit < base := by
  simp [digit?, Option.filter_eq_some_iff]

theorem valueFrom?_concat (base read : Nat) (front : List Char) (c : Char) :
    valueFrom? base read (front ++ [c]) =
      (valueFrom? base read front).bind fun value =>
        (digit? base c).map fun digit => value * base + digit := by
  rw [valueFrom?_append]
  congr 1
  funext value
  simp only [valueFrom?]
  cases digit? base c <;> rfl

theorem isSome_valueFrom?_iff {base : Nat} :
    ∀ {text : List Char} (read : Nat),
      (valueFrom? base read text).isSome ↔ ∀ c ∈ text, (digit? base c).isSome := by
  intro text
  induction text with
  | nil => intro read; simp [valueFrom?]
  | cons c rest ih =>
      intro read
      simp only [valueFrom?, List.forall_mem_cons]
      cases digit? base c with
      | none => simp
      | some digit => simp [ih]

theorem le_of_valueFrom?_eq_some {base : Nat} (positive : 1 ≤ base) :
    ∀ {text : List Char} {read value : Nat}, valueFrom? base read text = some value →
      read ≤ value := by
  intro text
  induction text with
  | nil =>
      intro read value found
      simp only [valueFrom?, Option.some.injEq] at found
      omega
  | cons c rest ih =>
      intro read value found
      simp only [valueFrom?] at found
      split at found
      · have larger := ih found
        have scaled : read * 1 ≤ read * base := Nat.mul_le_mul_left read positive
        omega
      · simp at found

theorem digit?_digitChar {base digit : Nat} (small : base ≤ 16) (below : digit < base) :
    digit? base (digitChar digit) = some digit := by
  have known : ∀ d : Fin 16, digitOfChar (digitChar d.val) = some d.val := by decide
  have found := known ⟨digit, by omega⟩
  simp only at found
  simp [digit?, found, Option.filter, below]

theorem digits_of_lt {base n : Nat} (single : n < base) : digits base n = [digitChar n] := by
  rw [digits, if_pos (Or.inl single)]

theorem digits_of_le {base n : Nat} (least : 2 ≤ base) (more : base ≤ n) :
    digits base n = digits base (n / base) ++ [digitChar (n % base)] := by
  rw [digits, if_neg (by omega)]

theorem digits_ne_nil (base n : Nat) : digits base n ≠ [] := by
  rw [digits]
  split <;> simp

theorem valueFrom?_digits {base : Nat} (least : 2 ≤ base) (small : base ≤ 16) (n : Nat) :
    valueFrom? base 0 (digits base n) = some n := by
  induction n using Nat.strongRecOn with
  | ind n ih =>
      by_cases single : n < base
      · rw [digits_of_lt single]
        simp [valueFrom?, digit?_digitChar small single]
      · have more : base ≤ n := Nat.le_of_not_lt single
        rw [digits_of_le least more, valueFrom?_append,
          ih (n / base) (Nat.div_lt_self (by omega) (by omega))]
        have last : digit? base (digitChar (n % base)) = some (n % base) :=
          digit?_digitChar small (Nat.mod_lt _ (by omega))
        simp only [Option.bind_some, valueFrom?, last]
        rw [Nat.mul_comm, Nat.div_add_mod]

theorem value?_digits {base : Nat} (least : 2 ≤ base) (small : base ≤ 16) (n : Nat) :
    value? base (digits base n) = some n :=
  valueFrom?_digits least small n

theorem decimal_of_lt {n : Nat} (single : n < 10) : decimal n = String.ofList [digitChar n] := by
  change String.ofList (digits 10 n) = _
  rw [digits_of_lt single]

theorem digits_inj {base m n : Nat} (least : 2 ≤ base) (small : base ≤ 16)
    (same : digits base m = digits base n) : m = n := by
  have read := value?_digits least small m
  rw [same, value?_digits least small n] at read
  exact (Option.some.inj read).symm

theorem isSome_digit?_of_mem_digits {base n : Nat} {c : Char} (least : 2 ≤ base)
    (small : base ≤ 16) (member : c ∈ digits base n) : (digit? base c).isSome := by
  have read : (valueFrom? base 0 (digits base n)).isSome := by
    rw [valueFrom?_digits least small]
    rfl
  exact (isSome_valueFrom?_iff 0).mp read c member

theorem mem_decimal {n : Int} {c : Char} (member : c ∈ (decimal n).toList) :
    c = '-' ∨ (digit? 10 c).isSome := by
  cases n with
  | ofNat m =>
      rw [decimal, String.toList_ofList] at member
      exact Or.inr (isSome_digit?_of_mem_digits (by decide) (by decide) member)
  | negSucc m =>
      rw [decimal, String.toList_ofList, List.mem_cons] at member
      exact member.imp_right (isSome_digit?_of_mem_digits (by decide) (by decide))

theorem not_mem_decimal {c : Char} (noSign : c ≠ '-') (noDigit : digit? 10 c = none) (n : Int) :
    c ∉ (decimal n).toList := by
  intro member
  rcases mem_decimal member with sign | digit
  · exact noSign sign
  · rw [noDigit] at digit
    exact absurd digit (by decide)

theorem sign_not_mem_digits (n : Nat) : '-' ∉ digits 10 n := by
  intro member
  have digit := isSome_digit?_of_mem_digits (by decide) (by decide) member
  exact absurd digit (by decide)

theorem decimal_inj {m n : Int} (same : decimal m = decimal n) : m = n := by
  cases m with
  | ofNat a =>
      cases n with
      | ofNat b => rw [digits_inj (by decide) (by decide) (String.ofList_injective same)]
      | negSucc b =>
          have signed : digits 10 a = '-' :: digits 10 (b + 1) := String.ofList_injective same
          exact absurd (by rw [signed]; exact List.mem_cons_self) (sign_not_mem_digits a)
  | negSucc a =>
      cases n with
      | ofNat b =>
          have signed : '-' :: digits 10 (a + 1) = digits 10 b := String.ofList_injective same
          exact absurd (by rw [← signed]; exact List.mem_cons_self) (sign_not_mem_digits b)
      | negSucc b =>
          have bare := List.tail_eq_of_cons_eq (String.ofList_injective same)
          have next : a + 1 = b + 1 := digits_inj (by decide) (by decide) bare
          rw [Nat.succ.inj next]

/-! ## Letter case and leading zeros -/

theorem toNat_toUpper (c : Char) :
    c.toUpper.toNat = if 97 ≤ c.toNat ∧ c.toNat ≤ 122 then c.toNat - 32 else c.toNat := by
  have code : c.val.toNat = c.toNat := rfl
  unfold Char.toUpper
  simp only [UInt32.le_iff_toNat_le, show 'a'.val.toNat = 97 from rfl,
    show 'z'.val.toNat = 122 from rfl, code]
  split
  · change (c.val + ('A'.val - 'a'.val)).toNat = c.toNat - 32
    rw [UInt32.toNat_add, code, show ('A'.val - 'a'.val).toNat = 2 ^ 32 - 32 from rfl]
    omega
  · rfl

theorem digitOfChar_toUpper (c : Char) : digitOfChar c.toUpper = digitOfChar c := by
  ext digit
  rw [digitOfChar_eq_some_iff, digitOfChar_eq_some_iff, toNat_toUpper]
  split <;> omega

theorem valueFrom?_map_toUpper (base : Nat) :
    ∀ (text : List Char) (read : Nat),
      valueFrom? base read (text.map Char.toUpper) = valueFrom? base read text := by
  intro text
  induction text with
  | nil => intro read; rfl
  | cons c rest ih =>
      intro read
      simp only [List.map_cons, valueFrom?, digit?, digitOfChar_toUpper, ih]

theorem value?_map_toUpper (base : Nat) (text : List Char) :
    value? base (text.map Char.toUpper) = value? base text :=
  valueFrom?_map_toUpper base text 0

theorem value?_zeros_append {base : Nat} (positive : 1 ≤ base) (count : Nat) (text : List Char) :
    value? base (List.replicate count '0' ++ text) = value? base text := by
  have zero : digit? base '0' = some 0 :=
    digit?_eq_some_iff.mpr ⟨digitOfChar_eq_some_iff.mpr (by decide), positive⟩
  induction count with
  | zero => rfl
  | succ count ih =>
      rw [List.replicate_succ, List.cons_append, value?, valueFrom?, zero]
      simp only [Nat.zero_mul]
      exact ih

theorem map_toUpper_digits {base : Nat} (least : 2 ≤ base) (small : base ≤ 16) (n : Nat) :
    (digits base n).map Char.toUpper = digits base n := by
  have upper : ∀ d : Fin 16, (digitChar d.val).toUpper = digitChar d.val := by decide
  induction n using Nat.strongRecOn with
  | ind n ih =>
      by_cases single : n < base
      · rw [digits_of_lt single, List.map_singleton, upper ⟨n, by omega⟩]
      · have more : base ≤ n := Nat.le_of_not_lt single
        have below : n % base < base := Nat.mod_lt n (by omega)
        rw [digits_of_le least more, List.map_append, List.map_singleton,
          ih (n / base) (Nat.div_lt_self (by omega) (by omega)), upper ⟨n % base, by omega⟩]

end SignedDifference.Numeral
