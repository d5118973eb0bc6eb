import SignedDifference.Proofs.Reading.Parts
import SignedDifference.Proofs.Reading.Spelling
import SignedDifference.Reading.Syntax

/-!
# The parser of a literal

The first characters of a text tell the alternatives of a literal apart.  A whole literal leaves
behind what it could have gone on with, and a broken one what it should have gone on with; a zero
before the mark of a bit pattern is taken for a decimal if no digit follows (`literal_yields`).
-/

set_option autoImplicit false

namespace SignedDifference

open Text (byteCount byteCount_append byteCount_pos byteCount_lt_append)

namespace WrittenLiteral

/-- What a reading goes on with if the value does not fit. -/
def standIn : WrittenLiteral → Literal
  | .decimal _ _ => .int 0
  | .pattern _ => .hex 0
  | .min => .min
  | .max => .max

def literal (written : WrittenLiteral) : Literal :=
  match written.denote with
  | .ok literal => literal
  | .error _ => written.standIn

end WrittenLiteral

namespace Parser

variable {β : Type} {position place : Nat} {rest token later : List Char}
  {furthest : Option Refusal} {faults : List ReadError} {written : WrittenLiteral} {c : Char}

theorem validate_of_some {parser : Parser β} {scan after : Scan} {b : β}
    {denote : β → Except RangeFault Literal} (took : parser scan = (some b, after))
    (denoted : denote b = written.denote) :
    validate parser denote written.standIn scan =
      (some written.literal,
        { after with
          faults := after.faults ++
            (Operand.mk ⟨scan.position, after.position⟩ written).errors }) := by
  simp only [validate, took, denoted, Operand.errors, WrittenLiteral.literal]
  cases written.denote with
  | ok literal => simp only [List.append_nil]
  | error fault => rfl

/-! ## Digits -/

theorem value?_eq_magnitude {base : Nat} (accepted : ∀ c ∈ token, isDigit base c = true) :
    Numeral.value? base token = some (magnitude base token) := by
  have known : (Numeral.value? base token).isSome := (Numeral.isSome_valueFrom?_iff 0).mpr accepted
  obtain ⟨n, value⟩ := Option.isSome_iff_exists.mp known
  rw [magnitude, value, Option.getD_some]

theorem isDigit_of_mem {base : Nat} (accepted : isDigit base c = true) :
    ∀ d ∈ c :: rest.takeWhile (isDigit base), isDigit base d = true := by
  intro d member
  rcases List.mem_cons.mp member with rfl | taken
  · exact accepted
  · exact List.mem_takeWhile_imp taken

theorem digit?_of_dropWhile {base : Nat}
    (found : (rest.dropWhile (isDigit base)).head? = some c) : Numeral.digit? base c = none := by
  have refused := List.head?_dropWhile_not (isDigit base) rest
  rw [found] at refused
  simpa [isDigit] using refused

theorem digits_cons {base : Nat} (accepted : isDigit base c = true)
    (isToken : token = c :: rest.takeWhile (isDigit base))
    (isLater : later = rest.dropWhile (isDigit base)) (isPlace : place = position + byteCount token)
    (behind : Refusal.Behind furthest place) :
    digits base ⟨position, c :: rest, furthest, faults⟩ =
      (some token, ⟨place, later, some (.before place later [.digit]), faults⟩) := by
  rw [isToken, byteCount, ← Nat.add_assoc] at isPlace
  simp only [digits, bind_apply, satisfy_cons accepted, many_apply, ← isToken, ← isLater,
    ← isPlace, Scan.refuse, behind.merge_eq, pure_apply]

theorem digits_of_refused {base : Nat} (behind : Refusal.Behind furthest position)
    (refused : ∀ c, rest.head? = some c → isDigit base c = false) :
    digits base ⟨position, rest, furthest, faults⟩ =
      (none, ⟨position, rest, some (.before position rest [.digit]), faults⟩) := by
  simp only [digits, bind_apply, satisfy_of_refused refused, Scan.refuse, behind.merge_eq]

theorem integer_zero :
    integer 10 ⟨position, '0' :: rest, furthest, faults⟩ =
      (some ['0'], ⟨position + '0'.utf8Size, rest,
        (Scan.refuse .nonzeroDigit ⟨position, '0' :: rest, furthest, faults⟩).furthest,
        faults⟩) := by
  have refused : ∀ c, ('0' :: rest).head? = some c → isNonzeroDigit 10 c = false := by
    intro c found
    cases found
    decide
  simp only [integer, orElse_apply, bind_apply, satisfy_of_refused refused, symbol_cons, pure_apply]

theorem integer_cons (accepted : isNonzeroDigit 10 c = true)
    (isToken : token = c :: rest.takeWhile (isDigit 10))
    (isLater : later = rest.dropWhile (isDigit 10)) (isPlace : place = position + byteCount token)
    (behind : Refusal.Behind furthest place) :
    integer 10 ⟨position, c :: rest, furthest, faults⟩ =
      (some token, ⟨place, later, some (.before place later [.digit]), faults⟩) := by
  rw [isToken, byteCount, ← Nat.add_assoc] at isPlace
  simp only [integer, orElse_apply, bind_apply, satisfy_cons accepted, many_apply, ← isToken,
    ← isLater, ← isPlace, Scan.refuse, behind.merge_eq, pure_apply]

theorem integer_of_refused (refused : ∀ c, rest.head? = some c → isDigit 10 c = false) :
    integer 10 ⟨position, rest, furthest, faults⟩ =
      (none, Scan.refuse (.symbol '0')
        (Scan.refuse .nonzeroDigit ⟨position, rest, furthest, faults⟩)) := by
  have notNonzero : ∀ c, rest.head? = some c → isNonzeroDigit 10 c = false := by
    intro c found
    rw [isNonzeroDigit, refused c found, Bool.and_false]
  have notZero : rest.head? ≠ some '0' := fun found => absurd (refused '0' found) (by decide)
  simp only [integer, orElse_apply, bind_apply, satisfy_of_refused notNonzero]
  rw [Scan.refuse, symbol_of_ne notZero]

/-! ## Bit patterns -/

theorem mark_taken (position : Nat) (rest : List Char) (faults : List ReadError) {mark : Char}
    (marked : mark = 'x' ∨ mark = 'X') :
    ∃ noted, (word ['0', 'x'] <|> word ['0', 'X']) ⟨position, '0' :: mark :: rest, none, faults⟩ =
        (some (), ⟨position + byteCount ['0', mark], rest, noted, faults⟩) ∧
      Refusal.Behind noted (position + byteCount ['0', mark]) := by
  rcases marked with rfl | rfl
  · have taken := word_append position rest none faults ['0', 'x']
    simp only [List.cons_append, List.nil_append] at taken
    exact ⟨none, by rw [orElse_apply, taken], Refusal.behind_none _⟩
  · have other : ('X' :: rest).head? ≠ some 'x' := by simp
    have refused := word_of_ne position _ none faults ['0'] [] other
    have taken := word_append position rest
      (some (.before (position + byteCount ['0']) ('X' :: rest) [.symbol 'x'])) faults ['0', 'X']
    simp only [List.cons_append, List.nil_append] at refused taken
    refine ⟨_, by rw [orElse_apply, refused]; exact taken, ?_⟩
    exact Refusal.behind_before (Nat.add_lt_add_left (by decide) position)

theorem hexPattern_cons {mark : Char} (marked : mark = 'x' ∨ mark = 'X')
    (accepted : isDigit 16 c = true) (isToken : token = c :: rest.takeWhile (isDigit 16))
    (isLater : later = rest.dropWhile (isDigit 16))
    (isWritten : written = .pattern (magnitude 16 token))
    (isPlace : place = position + byteCount ('0' :: mark :: token)) :
    hexPattern ⟨position, '0' :: mark :: c :: rest, none, faults⟩ =
      (some written.literal,
        ⟨place, later, some (.before place later [.digit]),
          faults ++ (Operand.mk ⟨position, place⟩ written).errors⟩) := by
  obtain ⟨noted, taken, behind⟩ := mark_taken position (c :: rest) faults marked
  have further : position < place := by
    rw [isPlace]
    exact Nat.lt_add_of_pos_right (byteCount_pos (List.cons_ne_nil _ _))
  have split : '0' :: mark :: token = ['0', mark] ++ token := rfl
  rw [split, byteCount_append, ← Nat.add_assoc] at isPlace
  have ran : (do word ['0', 'x'] <|> word ['0', 'X']; digits 16)
      ⟨position, '0' :: mark :: c :: rest, none, faults⟩ =
        (some token, ⟨place, later, some (.before place later [.digit]), faults⟩) := by
    rw [bind_apply, taken]
    exact digits_cons accepted isToken isLater isPlace (behind.mono (by omega))
  have stood : Literal.hex 0 = written.standIn := by rw [isWritten]; rfl
  rw [hexPattern, labelled_apply, stood, validate_of_some ran (by rw [isWritten])]
  simp only [Option.map_some, Refusal.label_before, if_neg (Nat.ne_of_gt further),
    Option.merge_none_left]

theorem hexPattern_of_mark (position : Nat) (faults : List ReadError) {mark : Char}
    (marked : mark = 'x' ∨ mark = 'X')
    (refused : ∀ c, rest.head? = some c → isDigit 16 c = false) :
    ∃ after, hexPattern ⟨position, '0' :: mark :: rest, none, faults⟩ = (none, after) ∧
      after.furthest = some (.before (position + byteCount ['0', mark]) rest [.digit]) := by
  obtain ⟨noted, taken, behind⟩ := mark_taken position rest faults marked
  have further : byteCount ['0', mark] ≠ 0 :=
    Nat.ne_of_gt (byteCount_pos (List.cons_ne_nil _ _))
  simp [hexPattern, labelled_apply, validate, taken, digits_of_refused behind refused, further]

theorem hexPattern_of_zero (position : Nat) (faults : List ReadError)
    (small : rest.head? ≠ some 'x') (capital : rest.head? ≠ some 'X') :
    ∃ after, hexPattern ⟨position, '0' :: rest, none, faults⟩ = (none, after) ∧
      after.furthest =
        some (.before (position + byteCount ['0']) rest [.symbol 'x', .symbol 'X']) := by
  have positive := Char.utf8Size_pos '0'
  simp [hexPattern, labelled_apply, validate, word, symbol_of_ne, small, capital, Scan.refuse,
    byteCount, Nat.ne_of_gt positive]

theorem hexPattern_of_refused (position : Nat) (faults : List ReadError)
    (other : rest.head? ≠ some '0') :
    ∃ after, hexPattern ⟨position, rest, none, faults⟩ = (none, after) ∧
      after.furthest = some (.before position rest [.hexPattern]) := by
  simp [hexPattern, labelled_apply, validate, word, symbol_of_ne, other, Scan.refuse]

/-! ## Decimals -/

def sign (negative : Bool) : List Char :=
  if negative then ['-'] else []

theorem decimal_cons (negative : Bool) (accepted : isNonzeroDigit 10 c = true)
    (isToken : token = c :: rest.takeWhile (isDigit 10))
    (isLater : later = rest.dropWhile (isDigit 10))
    (isWritten : written = .decimal negative (magnitude 10 token))
    (isPlace : place = position + byteCount (sign negative ++ token))
    (behind : Refusal.Behind furthest place) :
    decimal ⟨position, sign negative ++ c :: rest, furthest, faults⟩ =
      (some written.literal,
        ⟨place, later, some (.before place later [.digit]),
          faults ++ (Operand.mk ⟨position, place⟩ written).errors⟩) := by
  have further : position < place := by
    rw [isPlace]
    exact Nat.lt_add_of_pos_right (byteCount_pos (by simp [isToken]))
  have ran : (do return ((← optional (symbol '-')).isSome, ← integer 10) :
      Parser (Bool × List Char)) ⟨position, sign negative ++ c :: rest, none, faults⟩ =
        (some (negative, token), ⟨place, later, some (.before place later [.digit]), faults⟩) := by
    cases negative with
    | false =>
        have unsigned : (c :: rest).head? ≠ some '-' := by
          intro found
          cases found
          exact absurd accepted (by decide)
        simp only [sign, Bool.false_eq_true, if_false, List.nil_append, bind_apply,
          optional_symbol_of_ne unsigned, Scan.refuse, Option.merge_none_left,
          integer_cons accepted isToken isLater isPlace (Refusal.behind_before further)]
        rfl
    | true =>
        have placed : place = position + '-'.utf8Size + byteCount token := by
          rw [isPlace, byteCount_append, Nat.add_assoc]
          rfl
        simp only [sign, if_true, List.singleton_append, bind_apply, optional_symbol_cons,
          integer_cons accepted isToken isLater placed (Refusal.behind_none place)]
        rfl
  have stood : Literal.int 0 = written.standIn := by rw [isWritten]; rfl
  rw [decimal, labelled_apply, stood, validate_of_some ran (by rw [isWritten])]
  simp only [Option.map_some, Refusal.label_before, if_neg (Nat.ne_of_gt further),
    behind.merge_eq]

/-- An attempt at a bit pattern has gone beyond the zero. -/
theorem decimal_zero (rest : List Char) (faults : List ReadError) {refusal : Refusal}
    (beyond : position < refusal.span.start) :
    decimal ⟨position, '0' :: rest, some refusal, faults⟩ =
      (some (.int 0), ⟨position + byteCount ['0'], rest, some refusal, faults⟩) := by
  have unsigned : ('0' :: rest).head? ≠ some '-' := by simp
  have denoted : (WrittenLiteral.decimal false (magnitude 10 ['0'])).denote = .ok (.int 0) := rfl
  simp [decimal, labelled_apply, validate, optional_symbol_of_ne unsigned, integer_zero, denoted,
    Scan.refuse, Refusal.merge_of_gt, beyond, byteCount]

theorem decimal_signed_zero (behind : Refusal.Behind furthest (position + '-'.utf8Size)) :
    decimal ⟨position, '-' :: '0' :: rest, furthest, faults⟩ =
      (some (.int 0), ⟨position + byteCount ['-', '0'], rest,
        some (.before (position + '-'.utf8Size) ('0' :: rest) [.nonzeroDigit]), faults⟩) := by
  have denoted : (WrittenLiteral.decimal true (magnitude 10 ['0'])).denote = .ok (.int 0) := rfl
  have positive := Char.utf8Size_pos '-'
  simp [decimal, labelled_apply, validate, optional_symbol_cons, integer_zero, denoted,
    Scan.refuse, behind.merge_eq, Nat.ne_of_gt positive, byteCount, Nat.add_assoc]

theorem decimal_of_sign (faults : List ReadError)
    (behind : Refusal.Behind furthest (position + byteCount ['-']))
    (refused : ∀ c, rest.head? = some c → isDigit 10 c = false) :
    ∃ after, decimal ⟨position, '-' :: rest, furthest, faults⟩ = (none, after) ∧
      after.furthest =
        some (.before (position + byteCount ['-']) rest [.nonzeroDigit, .symbol '0']) := by
  have positive := Char.utf8Size_pos '-'
  have signSize : byteCount ['-'] = '-'.utf8Size := rfl
  rw [signSize] at behind ⊢
  simp [decimal, labelled_apply, validate, optional_symbol_cons, integer_of_refused refused,
    Scan.refuse, behind.merge_eq, Nat.ne_of_gt positive]

theorem decimal_of_refused (position : Nat) (faults : List ReadError) (known : Continuation)
    (unsigned : rest.head? ≠ some '-')
    (refused : ∀ c, rest.head? = some c → isDigit 10 c = false) :
    ∃ after expected,
      decimal ⟨position, rest, some (.before position rest [known]), faults⟩ = (none, after) ∧
        after.furthest = some (.before position rest expected) := by
  simp [decimal, labelled_apply, validate, optional_symbol_of_ne unsigned,
    integer_of_refused refused, Scan.refuse]

/-! ## Names of ends -/

theorem endName_of_refused (position : Nat) (furthest : Option Refusal) (faults : List ReadError)
    (other : rest.head? ≠ some 'M') :
    endName ⟨position, rest, furthest, faults⟩ =
      (none, Scan.refuse (.symbol 'M')
        (Scan.refuse (.symbol 'M') ⟨position, rest, furthest, faults⟩)) := by
  simp only [endName, word, orElse_apply, bind_apply, symbol_of_ne other]
  rfl

theorem endName_min :
    endName ⟨position, 'M' :: 'I' :: 'N' :: rest, furthest, faults⟩ =
      (some .min, ⟨position + byteCount ['M', 'I', 'N'], rest, furthest, faults⟩) := by
  have taken := word_append position rest furthest faults ['M', 'I', 'N']
  simp only [List.cons_append, List.nil_append] at taken
  simp only [endName, orElse_apply, bind_apply, taken, pure_apply]

section Words

variable (behind : Refusal.Behind furthest (position + byteCount ['M']))
include behind

theorem endName_max :
    endName ⟨position, 'M' :: 'A' :: 'X' :: rest, furthest, faults⟩ =
      (some .max, ⟨position + byteCount ['M', 'A', 'X'], rest,
        some (.before (position + byteCount ['M']) ('A' :: 'X' :: rest) [.symbol 'I']),
        faults⟩) := by
  have other : ('A' :: 'X' :: rest).head? ≠ some 'I' := by simp
  have refused := word_of_ne position _ furthest faults ['M'] ['N'] other
  have taken := word_append position rest
    (some (.before (position + byteCount ['M']) ('A' :: 'X' :: rest) [.symbol 'I'])) faults
    ['M', 'A', 'X']
  simp only [List.cons_append, List.nil_append, Scan.refuse, behind.merge_eq] at refused taken
  simp only [endName, orElse_apply, bind_apply, refused, taken, pure_apply]

theorem endName_of_letter (notI : rest.head? ≠ some 'I') (notA : rest.head? ≠ some 'A') :
    endName ⟨position, 'M' :: rest, furthest, faults⟩ =
      (none, ⟨position + byteCount ['M'], rest,
        some (.before (position + byteCount ['M']) rest [.symbol 'I', .symbol 'A']), faults⟩) := by
  have least := word_of_ne position _ furthest faults ['M'] ['N'] notI
  have greatest := word_of_ne position _
    (some (.before (position + byteCount ['M']) rest [.symbol 'I'])) faults ['M'] ['X'] notA
  simp only [List.cons_append, List.nil_append, Scan.refuse, behind.merge_eq,
    Option.merge_some_some, Refusal.merge_before] at least greatest
  simp only [endName, orElse_apply, bind_apply, least, greatest]
  rfl

/-- The names differ in their second letter, so that the other one is refused before it. -/
theorem endName_of_letters (faults : List ReadError) {second third : Char}
    (letters : second = 'I' ∧ third = 'N' ∨ second = 'A' ∧ third = 'X')
    (other : rest.head? ≠ some third) :
    ∃ after, endName ⟨position, 'M' :: second :: rest, furthest, faults⟩ = (none, after) ∧
      after.furthest =
        some (.before (position + byteCount ['M', second]) rest [.symbol third]) ∧
      after.faults = faults := by
  have further : position + byteCount ['M'] < position + byteCount ['M', second] :=
    Nat.add_lt_add_left (byteCount_lt_append ['M'] (List.cons_ne_nil second [])) position
  rcases letters with ⟨rfl, rfl⟩ | ⟨rfl, rfl⟩
  · have notA : ('I' :: rest).head? ≠ some 'A' := by simp
    have least := word_of_ne position _ furthest faults ['M', 'I'] [] other
    have greatest := word_of_ne position _
      (some (.before (position + byteCount ['M', 'I']) rest [.symbol 'N'])) faults ['M'] ['X'] notA
    rw [Scan.refuse, (behind.mono (Nat.le_of_lt further)).merge_eq] at least
    rw [Scan.refuse_of_beyond _ (by rwa [Refusal.start_before])] at greatest
    simp only [List.cons_append, List.nil_append] at least greatest
    refine ⟨_, by simp only [endName, orElse_apply, bind_apply, least, greatest]; rfl, rfl, rfl⟩
  · have notI : ('A' :: rest).head? ≠ some 'I' := by simp
    have least := word_of_ne position _ furthest faults ['M'] ['N'] notI
    have greatest := word_of_ne position _
      (some (.before (position + byteCount ['M']) ('A' :: rest) [.symbol 'I'])) faults
      ['M', 'A'] [] other
    rw [Scan.refuse, behind.merge_eq] at least
    rw [Scan.refuse, (Refusal.behind_before further).merge_eq] at greatest
    simp only [List.cons_append, List.nil_append] at least greatest
    refine ⟨_, by simp only [endName, orElse_apply, bind_apply, least, greatest]; rfl, rfl, rfl⟩

end Words

end Parser

/-! ## All alternatives -/

def Scan.AtMark (scan : Scan) : Prop :=
  ∃ mark later, (mark = 'x' ∨ mark = 'X') ∧ scan.rest = mark :: later

/-- What the parser of a literal makes of a text: nothing, a whole literal, or a broken one. -/
inductive Yields (position : Nat) (text : List Char) (faults : List ReadError) :
    Option Literal × Scan → Prop
  | refused {after : Scan} {expected : List Continuation}
      (unbegun : ∀ c, text.head? = some c → PartialLiteral.begin? c = none)
      (noted : after.furthest = some (.before position text expected))
      (faultless : after.faults = faults) : Yields position text faults (none, after)
  | whole {token : List Char} {written : WrittenLiteral} {after : Scan}
      (text_eq : text = token ++ after.rest) (spelled : written.SpelledBy token)
      (ended : ∀ c, after.rest.head? = some c → PartialLiteral.extendWhole? c written = none)
      (placed : after.position = position + byteCount token)
      (noted : after.Noted (PartialLiteral.whole written).continuations)
      (faults_eq :
        after.faults = faults ++ (Operand.mk ⟨position, after.position⟩ written).errors) :
      Yields position text faults (some written.literal, after)
  | broken {token rest : List Char} {literal : PartialLiteral} {result : Option Literal}
      {after : Scan} (text_eq : text = token ++ rest) (stands : literal.StandsFor token)
      (incomplete : literal.complete? = none)
      (ended : ∀ c, rest.head? = some c → literal.extend? c = none)
      (noted : after.furthest =
        some (.before (position + byteCount token) rest literal.continuations))
      (faultless : after.faults = faults)
      (result_eq : result = none ∨ (after.position < position + byteCount token ∧ after.AtMark)) :
      Yields position text faults (result, after)

namespace Parser

variable {position : Nat} {rest text : List Char} {furthest : Option Refusal}
  {faults : List ReadError} {c : Char}

theorem literal_of_pattern {scan after : Scan} {value : Literal}
    (pattern : hexPattern scan = (some value, after)) : literal scan = (some value, after) := by
  simp only [literal, orElse_apply, pattern]

theorem literal_of_decimal {scan failed after : Scan} {value : Literal}
    (pattern : hexPattern scan = (none, failed))
    (number : decimal { scan with furthest := failed.furthest } = (some value, after)) :
    literal scan = (some value, after) := by
  simp only [literal, orElse_apply, pattern, number]

theorem literal_of_endName {scan failed after : Scan} {outcome : Option Literal × Scan}
    (pattern : hexPattern scan = (none, failed))
    (number : decimal { scan with furthest := failed.furthest } = (none, after))
    (name : endName { scan with furthest := after.furthest } = outcome) :
    literal scan = outcome := by
  simp only [literal, orElse_apply, pattern, number, name]

theorem yields_of_pattern {mark : Char} (marked : mark = 'x' ∨ mark = 'X')
    (accepted : isDigit 16 c = true) :
    Yields position ('0' :: mark :: c :: rest) faults
      (literal ⟨position, '0' :: mark :: c :: rest, none, faults⟩) := by
  rw [literal_of_pattern (hexPattern_cons marked accepted rfl rfl rfl rfl)]
  have spelled : WrittenLiteral.SpelledBy
      (.pattern (magnitude 16 (c :: rest.takeWhile (isDigit 16))))
      ('0' :: mark :: c :: rest.takeWhile (isDigit 16)) :=
    ⟨mark, _, marked, rfl, by simp, value?_eq_magnitude (isDigit_of_mem accepted)⟩
  refine .whole ?_ spelled ?_ rfl rfl rfl
  · simp only [List.cons_append, List.takeWhile_append_dropWhile]
  · intro d found
    rw [PartialLiteral.extendWhole?, digit?_of_dropWhile found, Option.map_none]

theorem yields_of_mark {mark : Char} (marked : mark = 'x' ∨ mark = 'X')
    (refused : ∀ c, rest.head? = some c → isDigit 16 c = false) :
    Yields position ('0' :: mark :: rest) faults
      (literal ⟨position, '0' :: mark :: rest, none, faults⟩) := by
  obtain ⟨failed, pattern, noted⟩ := hexPattern_of_mark position faults marked refused
  have shorter : byteCount ['0'] < byteCount ['0', mark] :=
    byteCount_lt_append ['0'] (List.cons_ne_nil mark [])
  have beyond : position <
      (Refusal.before (position + byteCount ['0', mark]) rest [.digit]).span.start := by
    rw [Refusal.start_before]
    omega
  have number := decimal_zero (mark :: rest) faults beyond
  rw [← noted] at number
  have stands : PartialLiteral.hexMark.StandsFor ['0', mark] := ⟨mark, marked, rfl⟩
  rw [literal_of_decimal pattern number]
  refine .broken rfl stands rfl ?_ noted rfl
    (Or.inr ⟨Nat.add_lt_add_left shorter position, mark, rest, marked, rfl⟩)
  intro d found
  have noDigit : Numeral.digit? 16 d = none := by simpa [isDigit] using refused d found
  rw [PartialLiteral.extend?, noDigit, Option.map_none]

theorem yields_of_zero (small : rest.head? ≠ some 'x') (capital : rest.head? ≠ some 'X') :
    Yields position ('0' :: rest) faults (literal ⟨position, '0' :: rest, none, faults⟩) := by
  obtain ⟨failed, pattern, noted⟩ := hexPattern_of_zero position faults small capital
  have beyond : position <
      (Refusal.before (position + byteCount ['0']) rest [.symbol 'x', .symbol 'X']).span.start := by
    rw [Refusal.start_before]
    exact Nat.lt_add_of_pos_right (by decide)
  have number := decimal_zero rest faults beyond
  rw [← noted] at number
  have spelled : WrittenLiteral.SpelledBy (.decimal false 0) ['0'] :=
    WrittenLiteral.isDecimal_singleton.mpr (by decide)
  have denoted : Literal.int 0 = (WrittenLiteral.decimal false 0).literal := rfl
  rw [literal_of_decimal pattern number, denoted]
  refine .whole rfl spelled ?_ rfl noted ?_
  · intro d found
    have notMark : ¬ (d = 'x' ∨ d = 'X') := by
      rintro (rfl | rfl)
      · exact small found
      · exact capital found
    simp [PartialLiteral.extendWhole?, notMark]
  · exact (List.append_nil faults).symm

theorem not_zero_of_isNonzeroDigit (accepted : isNonzeroDigit 10 c = true) :
    c ≠ '0' ∧ isDigit 10 c = true := by
  rw [isNonzeroDigit, Bool.and_eq_true, bne_iff_ne] at accepted
  exact accepted

theorem yields_of_digit (negative : Bool) (accepted : isNonzeroDigit 10 c = true) :
    Yields position (sign negative ++ c :: rest) faults
      (literal ⟨position, sign negative ++ c :: rest, none, faults⟩) := by
  obtain ⟨nonzero, digit⟩ := not_zero_of_isNonzeroDigit accepted
  have other : (sign negative ++ c :: rest).head? ≠ some '0' := by
    cases negative with
    | false => exact fun found => nonzero (Option.some.inj found)
    | true => simp [sign]
  obtain ⟨failed, pattern, noted⟩ := hexPattern_of_refused position faults other
  have behind : Refusal.Behind failed.furthest
      (position + byteCount (sign negative ++ c :: rest.takeWhile (isDigit 10))) := by
    rw [noted]
    exact Refusal.behind_before (Nat.lt_add_of_pos_right (byteCount_pos (by simp)))
  rw [literal_of_decimal pattern (decimal_cons negative accepted rfl rfl rfl rfl behind)]
  have decimal : WrittenLiteral.IsDecimal (c :: rest.takeWhile (isDigit 10))
      (magnitude 10 (c :: rest.takeWhile (isDigit 10))) :=
    ⟨by simp, fun zero => absurd (Option.some.inj zero) nonzero,
      value?_eq_magnitude (isDigit_of_mem digit)⟩
  have positive : magnitude 10 (c :: rest.takeWhile (isDigit 10)) ≠ 0 := by
    intro zero
    rw [zero] at decimal
    exact nonzero (List.cons.inj decimal.eq_zero).1
  refine .whole ?_ ?_ ?_ rfl ?_ rfl
  · simp only [List.append_assoc, List.cons_append, List.takeWhile_append_dropWhile]
  · cases negative with
    | false => exact decimal
    | true => exact ⟨_, rfl, decimal⟩
  · intro d found
    rw [PartialLiteral.extendWhole?, if_neg positive, digit?_of_dropWhile found, Option.map_none]
  · rw [PartialLiteral.continuations, if_neg positive]
    rfl

theorem yields_of_signed_zero :
    Yields position ('-' :: '0' :: rest) faults
      (literal ⟨position, '-' :: '0' :: rest, none, faults⟩) := by
  have other : ('-' :: '0' :: rest).head? ≠ some '0' := by simp
  obtain ⟨failed, pattern, noted⟩ := hexPattern_of_refused position faults other
  have behind : Refusal.Behind failed.furthest (position + '-'.utf8Size) := by
    rw [noted]
    exact Refusal.behind_before (Nat.lt_add_of_pos_right (by decide))
  have spelled : WrittenLiteral.SpelledBy (.decimal true 0) ['-', '0'] :=
    ⟨['0'], rfl, WrittenLiteral.isDecimal_singleton.mpr (by decide)⟩
  have denoted : Literal.int 0 = (WrittenLiteral.decimal true 0).literal := rfl
  rw [literal_of_decimal pattern (decimal_signed_zero behind), denoted]
  refine .whole rfl spelled ?_ rfl ?_ ?_
  · intro d found
    simp [PartialLiteral.extendWhole?]
  · exact Refusal.behind_before (Nat.add_lt_add_left (by decide) position)
  · exact (List.append_nil faults).symm

theorem yields_of_sign (refused : ∀ c, rest.head? = some c → isDigit 10 c = false) :
    Yields position ('-' :: rest) faults (literal ⟨position, '-' :: rest, none, faults⟩) := by
  have other : ('-' :: rest).head? ≠ some '0' := by simp
  obtain ⟨failed, pattern, noted⟩ := hexPattern_of_refused position faults other
  have behind : Refusal.Behind failed.furthest (position + byteCount ['-']) := by
    rw [noted]
    exact Refusal.behind_before (Nat.lt_add_of_pos_right (by decide))
  obtain ⟨stopped, number, notedNumber⟩ := decimal_of_sign faults behind refused
  have beyond : position < position + byteCount ['-'] := Nat.lt_add_of_pos_right (by decide)
  have notM : ('-' :: rest).head? ≠ some 'M' := by simp
  have name := endName_of_refused position stopped.furthest faults notM
  rw [notedNumber, Scan.refuse_of_beyond _ (by rwa [Refusal.start_before]),
    Scan.refuse_of_beyond _ (by rwa [Refusal.start_before]), ← notedNumber] at name
  rw [literal_of_endName pattern number name]
  have stands : PartialLiteral.sign.StandsFor ['-'] := rfl
  refine .broken rfl stands rfl ?_ notedNumber rfl (Or.inl rfl)
  intro d found
  have noDigit : Numeral.digit? 10 d = none := by simpa [isDigit] using refused d found
  rw [PartialLiteral.extend?, noDigit, Option.map_none]

theorem exists_literal_eq_endName (position : Nat) (faults : List ReadError)
    (unsigned : rest.head? ≠ some '-')
    (refused : ∀ c, rest.head? = some c → isDigit 10 c = false) :
    ∃ expected, literal ⟨position, rest, none, faults⟩ =
      endName ⟨position, rest, some (.before position rest expected), faults⟩ := by
  have notZero : rest.head? ≠ some '0' := fun found => absurd (refused '0' found) (by decide)
  obtain ⟨failed, pattern, noted⟩ := hexPattern_of_refused position faults notZero
  obtain ⟨stopped, expected, number, notedNumber⟩ :=
    decimal_of_refused position faults .hexPattern unsigned refused
  rw [← noted] at number
  exact ⟨expected, by rw [literal_of_endName pattern number rfl, notedNumber]⟩

theorem begin?_eq_none_iff :
    PartialLiteral.begin? c = none ↔ c ≠ '-' ∧ c ≠ 'M' ∧ isDigit 10 c = false := by
  unfold PartialLiteral.begin?
  split
  · simp [*]
  · split
    · simp [*]
    · simp [*, isDigit]

theorem yields_of_unbegun (unbegun : ∀ c, rest.head? = some c → PartialLiteral.begin? c = none) :
    Yields position rest faults (literal ⟨position, rest, none, faults⟩) := by
  obtain ⟨expected, same⟩ := exists_literal_eq_endName position faults
    (fun found => (begin?_eq_none_iff.mp (unbegun '-' found)).1 rfl)
    (fun c found => (begin?_eq_none_iff.mp (unbegun c found)).2.2)
  have other : rest.head? ≠ some 'M' :=
    fun found => (begin?_eq_none_iff.mp (unbegun 'M' found)).2.1 rfl
  rw [same, endName_of_refused position _ faults other, Scan.refuse_before, Scan.refuse_before]
  exact .refused unbegun rfl rfl

theorem yields_of_letter :
    Yields position ('M' :: rest) faults (literal ⟨position, 'M' :: rest, none, faults⟩) := by
  have unsigned : ('M' :: rest).head? ≠ some '-' := by simp
  obtain ⟨expected, same⟩ := exists_literal_eq_endName position faults unsigned
    (by intro c found; cases found; decide)
  have behind : Refusal.Behind (some (.before position ('M' :: rest) expected))
      (position + byteCount ['M']) :=
    Refusal.behind_before (Nat.lt_add_of_pos_right (by decide))
  rw [same]
  by_cases least : rest.head? = some 'I'
  · obtain ⟨later, rfl⟩ := List.head?_eq_some_iff.mp least
    by_cases complete : later.head? = some 'N'
    · obtain ⟨rest, rfl⟩ := List.head?_eq_some_iff.mp complete
      have spelled : WrittenLiteral.min.SpelledBy ['M', 'I', 'N'] := rfl
      have denoted : Literal.min = WrittenLiteral.min.literal := rfl
      rw [endName_min, denoted]
      exact .whole rfl spelled (fun _ _ => rfl) rfl
        (behind.mono (Nat.add_le_add_left (by decide) position)) (List.append_nil faults).symm
    · obtain ⟨after, name, noted, faultless⟩ :=
        endName_of_letters behind faults (Or.inl ⟨rfl, rfl⟩) complete
      rw [name]
      have stands : PartialLiteral.mi.StandsFor ['M', 'I'] := rfl
      refine .broken rfl stands rfl ?_ noted faultless (Or.inl rfl)
      intro d found
      have notN : ¬ d = 'N' := fun letter => complete (letter ▸ found)
      rw [PartialLiteral.extend?, if_neg notN]
  · by_cases greatest : rest.head? = some 'A'
    · obtain ⟨later, rfl⟩ := List.head?_eq_some_iff.mp greatest
      by_cases complete : later.head? = some 'X'
      · obtain ⟨rest, rfl⟩ := List.head?_eq_some_iff.mp complete
        have spelled : WrittenLiteral.max.SpelledBy ['M', 'A', 'X'] := rfl
        have denoted : Literal.max = WrittenLiteral.max.literal := rfl
        rw [endName_max behind, denoted]
        exact .whole rfl spelled (fun _ _ => rfl) rfl
          (Refusal.behind_before (Nat.add_lt_add_left (by decide) position))
          (List.append_nil faults).symm
      · obtain ⟨after, name, noted, faultless⟩ :=
          endName_of_letters behind faults (Or.inr ⟨rfl, rfl⟩) complete
        rw [name]
        have stands : PartialLiteral.ma.StandsFor ['M', 'A'] := rfl
        refine .broken rfl stands rfl ?_ noted faultless (Or.inl rfl)
        intro d found
        have notX : ¬ d = 'X' := fun letter => complete (letter ▸ found)
        rw [PartialLiteral.extend?, if_neg notX]
    · rw [endName_of_letter behind least greatest]
      have stands : PartialLiteral.m.StandsFor ['M'] := rfl
      refine .broken rfl stands rfl ?_ rfl rfl (Or.inl rfl)
      intro d found
      have notI : ¬ d = 'I' := fun letter => least (letter ▸ found)
      have notA : ¬ d = 'A' := fun letter => greatest (letter ▸ found)
      rw [PartialLiteral.extend?, if_neg notI, if_neg notA]

theorem isDigit_head (base : Nat) (text : List Char) :
    (∃ c rest, isDigit base c = true ∧ text = c :: rest) ∨
      ∀ c, text.head? = some c → isDigit base c = false := by
  cases text with
  | nil => exact Or.inr nofun
  | cons c rest =>
      cases accepted : isDigit base c with
      | true => exact Or.inl ⟨c, rest, accepted, rfl⟩
      | false => exact Or.inr fun d found => Option.some.inj found ▸ accepted

theorem literal_yields (position : Nat) (text : List Char) (faults : List ReadError) :
    Yields position text faults (literal ⟨position, text, none, faults⟩) := by
  by_cases zero : text.head? = some '0'
  · obtain ⟨rest, rfl⟩ := List.head?_eq_some_iff.mp zero
    by_cases marked : ∃ mark later, (mark = 'x' ∨ mark = 'X') ∧ rest = mark :: later
    · obtain ⟨mark, later, marked, rfl⟩ := marked
      rcases isDigit_head 16 later with ⟨c, rest, accepted, rfl⟩ | refused
      · exact yields_of_pattern marked accepted
      · exact yields_of_mark marked refused
    · apply yields_of_zero
      · intro found
        obtain ⟨later, rfl⟩ := List.head?_eq_some_iff.mp found
        exact marked ⟨'x', later, Or.inl rfl, rfl⟩
      · intro found
        obtain ⟨later, rfl⟩ := List.head?_eq_some_iff.mp found
        exact marked ⟨'X', later, Or.inr rfl, rfl⟩
  · by_cases signed : text.head? = some '-'
    · obtain ⟨rest, rfl⟩ := List.head?_eq_some_iff.mp signed
      rcases isDigit_head 10 rest with ⟨c, later, accepted, rfl⟩ | refused
      · by_cases signedZero : c = '0'
        · rw [signedZero]
          exact yields_of_signed_zero
        · exact yields_of_digit true (by simp [isNonzeroDigit, signedZero, accepted])
      · exact yields_of_sign refused
    · by_cases named : text.head? = some 'M'
      · obtain ⟨rest, rfl⟩ := List.head?_eq_some_iff.mp named
        exact yields_of_letter
      · rcases isDigit_head 10 text with ⟨c, rest, accepted, rfl⟩ | refused
        · have nonzero : c ≠ '0' := fun same => zero (congrArg some same)
          exact yields_of_digit false (by simp [isNonzeroDigit, nonzero, accepted])
        · apply yields_of_unbegun
          intro c found
          exact begin?_eq_none_iff.mpr ⟨fun same => signed (same ▸ found),
            fun same => named (same ▸ found), refused c found⟩

end Parser

end SignedDifference
