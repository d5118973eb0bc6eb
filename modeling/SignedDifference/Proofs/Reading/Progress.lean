import SignedDifference.Proofs.Reading.Meaning

/-!
# Reading what has the form

A text that ends with an operand, an arrow or an expectation leads to the stage that says so.  Ends
of literals are the delicate part: a literal under way ends only when the next character cannot
belong to it, and blanks, the minus sign and the equals sign never can (`Separates`).
-/

set_option autoImplicit false

namespace SignedDifference

open Text (byteCount byteCount_append isBlank)

/-- The character belongs to no literal that is already whole. -/
def Separates (c : Char) : Prop :=
  isBlank c = true ∨ c = '-' ∨ c = '='

namespace PartialLiteral

theorem toNat_of_digit? {base digit : Nat} {c : Char} (read : Numeral.digit? base c = some digit) :
    (48 ≤ c.toNat ∧ c.toNat ≤ 57) ∨ (65 ≤ c.toNat ∧ c.toNat ≤ 120) := by
  rw [Numeral.digit?_eq_some_iff, Numeral.digitOfChar_eq_some_iff] at read
  omega

theorem toNat_of_extendWhole? {written : WrittenLiteral} {c : Char} {extended : PartialLiteral}
    (taken : extendWhole? c written = some extended) :
    (48 ≤ c.toNat ∧ c.toNat ≤ 57) ∨ (65 ≤ c.toNat ∧ c.toNat ≤ 120) := by
  cases written with
  | decimal negative magnitude =>
      simp only [extendWhole?] at taken
      split at taken
      · simp only [Option.ite_none_right_eq_some] at taken
        rcases taken.1.2 with rfl | rfl <;> exact Or.inr (by decide)
      · obtain ⟨digit, read, _⟩ := Option.map_eq_some_iff.mp taken
        exact toNat_of_digit? read
  | pattern bits =>
      obtain ⟨digit, read, _⟩ := Option.map_eq_some_iff.mp taken
      exact toNat_of_digit? read
  | min | max => simp [extendWhole?] at taken

theorem extendWhole?_eq_none {written : WrittenLiteral} {c : Char} (separates : Separates c) :
    extendWhole? c written = none := by
  rw [Option.eq_none_iff_forall_ne_some]
  intro extended taken
  have range := toNat_of_extendWhole? taken
  rcases separates with blank | rfl | rfl
  · have outside := Text.toNat_of_isBlank blank
    omega
  · exact absurd range (by decide)
  · exact absurd range (by decide)

theorem not_isBlank_of_begin? {c : Char} {literal : PartialLiteral}
    (begun : begin? c = some literal) : isBlank c = false := by
  rw [Bool.eq_false_iff]
  intro blank
  have outside := Text.toNat_of_isBlank blank
  unfold begin? at begun
  split at begun
  · rename_i sign
    rw [sign] at outside
    exact absurd outside (by decide)
  · split at begun
    · rename_i letter
      rw [letter] at outside
      exact absurd outside (by decide)
    · obtain ⟨digit, read, _⟩ := Option.map_eq_some_iff.mp begun
      have range := WrittenLiteral.digit?_ten_range read
      omega

end PartialLiteral

namespace Stage

variable {form : Form} {text : List Char} {c : Char} {stage : Stage}

/-- The text leads to the stage, once a literal under way has ended. -/
def Settles (form : Form) (text : List Char) (stage : Stage) : Prop :=
  ∃ raw, after? form text = some raw ∧ raw.settle? (byteCount text) = some stage

theorem extend?_eq_none_of_settle? {raw : Stage} {position : Nat}
    (ended : raw.settle? position = some stage) (separates : Separates c) :
    raw.extend? c = none := by
  cases raw with
  | inMinuend start literal =>
      obtain ⟨written, complete, _⟩ := Option.map_eq_some_iff.mp ended
      rw [eq_whole_of_complete? complete]
      simp only [extend?, PartialLiteral.extend?, PartialLiteral.extendWhole?_eq_none separates,
        Option.map_none]
  | inSubtrahend minuend start literal =>
      obtain ⟨written, complete, _⟩ := Option.map_eq_some_iff.mp ended
      rw [eq_whole_of_complete? complete]
      simp only [extend?, PartialLiteral.extend?, PartialLiteral.extendWhole?_eq_none separates,
        Option.map_none]
  | _ => rfl

theorem Settles.after?_concat (settles : Settles form text stage) (separates : Separates c) :
    after? form (text ++ [c]) = stage.proceed? form (byteCount text) c := by
  obtain ⟨raw, reached, ended⟩ := settles
  rw [Stage.after?_concat, reached, Option.bind_some, next?,
    extend?_eq_none_of_settle? ended separates]
  simp only [ended, Option.bind_some]

structure TakesBlanks (form : Form) (stage : Stage) : Prop where
  settled : ∀ position, stage.settle? position = some stage
  proceeds : ∀ position c, isBlank c = true → stage.proceed? form position c = some stage

/-- A stage that one blank leaves as it is lies between tokens. -/
theorem takesBlanks (taken : stage.proceed? form 0 ' ' = some stage) :
    TakesBlanks form stage := by
  cases stage with
  | inMinuend | inSubtrahend => simp [proceed?] at taken
  | afterEquals | afterO => simp [proceed?] at taken
  | inOverflow minuend subtrahend next rest =>
      simp only [proceed?] at taken
      split at taken
      · cases rest <;> simp at taken
      · simp at taken
  | _ => exact ⟨fun _ => rfl, fun _ _ blank => by simp [proceed?, blank]⟩

theorem TakesBlanks.after?_append (takes : TakesBlanks form stage)
    (reached : after? form text = some stage) :
    ∀ {gap : List Char}, Blanks gap → after? form (text ++ gap) = some stage := by
  intro gap
  induction gap using List.reverseRecOn with
  | nil => intro _; rwa [List.append_nil]
  | append_singleton gap c ih =>
      intro blanks
      have blank : isBlank c = true := blanks c (by simp)
      have earlier : Blanks gap := fun d member => blanks d (by simp [member])
      have settles : Settles form (text ++ gap) stage := ⟨stage, ih earlier, takes.settled _⟩
      rw [← List.append_assoc, settles.after?_concat (Or.inl blank)]
      exact takes.proceeds _ c blank

theorem TakesBlanks.settles (takes : TakesBlanks form stage)
    (reached : after? form text = some stage) : Settles form text stage :=
  ⟨stage, reached, takes.settled _⟩

/-- A literal may have to end before the first blank. -/
theorem TakesBlanks.settles_append (takes : TakesBlanks form stage)
    (settles : Settles form text stage) {gap : List Char} (blanks : Blanks gap) :
    Settles form (text ++ gap) stage := by
  cases gap with
  | nil => rwa [List.append_nil]
  | cons c rest =>
      have blank : isBlank c = true := blanks c (by simp)
      have later : Blanks rest := fun d member => blanks d (by simp [member])
      have first : after? form (text ++ [c]) = some stage := by
        rw [settles.after?_concat (Or.inl blank)]
        exact takes.proceeds _ c blank
      have all := takes.after?_append first later
      rw [List.append_assoc, List.singleton_append] at all
      exact takes.settles all

structure AroundOperand (form : Form) (before : Stage) (within : Nat → PartialLiteral → Stage)
    (ended : Operand → Stage) : Prop where
  begins : ∀ {position c literal}, PartialLiteral.begin? c = some literal →
    before.next? form position c = some (within position literal)
  extends_eq : ∀ start literal c,
    (within start literal).extend? c = (literal.extend? c).map (within start)
  settle_eq : ∀ start literal position,
    (within start literal).settle? position =
      literal.complete?.map fun written => ended ⟨⟨start, position⟩, written⟩
  blanks : ∀ operand, TakesBlanks form (ended operand)

theorem aroundMinuend (form : Form) :
    AroundOperand form .beforeMinuend .inMinuend .afterMinuend where
  begins := by
    intro position c literal begun
    simp [next?, extend?, settle?, proceed?, PartialLiteral.not_isBlank_of_begin? begun, begun]
  extends_eq _ _ _ := rfl
  settle_eq _ _ _ := rfl
  blanks _ := takesBlanks rfl

theorem aroundSubtrahend (form : Form) (minuend : Operand) :
    AroundOperand form (.beforeSubtrahend minuend) (.inSubtrahend minuend)
      (.afterSubtrahend minuend) where
  begins := by
    intro position c literal begun
    simp [next?, extend?, settle?, proceed?, PartialLiteral.not_isBlank_of_begin? begun, begun]
  extends_eq _ _ _ := rfl
  settle_eq _ _ _ := rfl
  blanks _ := takesBlanks rfl

namespace AroundOperand

variable {before : Stage} {within : Nat → PartialLiteral → Stage} {ended : Operand → Stage}

theorem run_token (around : AroundOperand form before within ended) (position : Nat) :
    ∀ {token : List Char} {literal : PartialLiteral}, literal.StandsFor token →
      run form position before token = some (within position literal) := by
  intro token
  induction token using List.reverseRecOn with
  | nil => intro literal stands; exact absurd rfl stands.nonempty
  | append_singleton token c ih =>
      intro literal stands
      by_cases first : token = []
      · rw [first, List.nil_append] at stands ⊢
        simp only [run, around.begins (PartialLiteral.standsFor_singleton.mp stands)]
      · obtain ⟨earlier, standsEarlier, taken⟩ :=
          (PartialLiteral.standsFor_concat first).mp stands
        simp only [run_append, ih standsEarlier, Option.bind_some, run, next?, around.extends_eq,
          taken, Option.map_some]

theorem after?_token (around : AroundOperand form before within ended) {front token : List Char}
    {literal : PartialLiteral} (reached : after? form front = some before)
    (stands : literal.StandsFor token) :
    after? form (front ++ token) = some (within (byteCount front) literal) := by
  rw [after?] at reached
  rw [after?, run_append, reached, Option.bind_some, Nat.zero_add, around.run_token _ stands]

theorem settles (around : AroundOperand form before within ended) {opens : List Char → Prop}
    (reached : ∀ front, opens front → after? form front = some before) {operand : Operand}
    (ends : EndsOperand opens operand text) : Settles form text (ended operand) := by
  obtain ⟨front, token, gap, opened, ⟨spelled, placed⟩, blanks, rfl⟩ := ends
  have stands : (PartialLiteral.whole operand.written).StandsFor token := spelled
  have underWay := around.after?_token (reached front opened) stands
  refine (around.blanks operand).settles_append ⟨_, underWay, ?_⟩ blanks
  rw [around.settle_eq, ← placed]
  rfl

end AroundOperand

/-! ## The whole of a form -/

theorem after?_of_blanks (blanks : Blanks text) : after? form text = some .beforeMinuend := by
  have start : after? form [] = some .beforeMinuend := rfl
  exact (takesBlanks rfl).after?_append start blanks

theorem settles_of_endsMinuend {minuend : Operand} (ends : EndsMinuend minuend text) :
    Settles form text (.afterMinuend minuend) :=
  (aroundMinuend form).settles (fun _ blanks => after?_of_blanks blanks) ends

theorem after?_of_endsMinus {minuend : Operand} (ends : EndsMinus minuend text) :
    after? form text = some (.beforeSubtrahend minuend) := by
  obtain ⟨left, gap, endsLeft, blanks, rfl⟩ := ends
  have sign : after? form (left ++ ['-']) = some (.beforeSubtrahend minuend) := by
    rw [(settles_of_endsMinuend endsLeft).after?_concat (Or.inr (Or.inl rfl))]
    rfl
  have all := (takesBlanks rfl).after?_append sign blanks
  rwa [List.append_assoc, List.singleton_append] at all

theorem settles_of_endsSubtrahend {minuend subtrahend : Operand}
    (ends : EndsSubtrahend minuend subtrahend text) :
    Settles form text (.afterSubtrahend minuend subtrahend) :=
  (aroundSubtrahend form minuend).settles (fun _ endsMinus => after?_of_endsMinus endsMinus) ends

theorem after?_equals {minuend subtrahend : Operand}
    (ends : EndsSubtrahend minuend subtrahend text) :
    after? .caseLine (text ++ ['=']) = some (.afterEquals minuend subtrahend) := by
  rw [(settles_of_endsSubtrahend ends).after?_concat (Or.inr (Or.inr rfl))]
  rfl

theorem after?_of_endsArrow {minuend subtrahend : Operand}
    (ends : EndsArrow minuend subtrahend text) :
    after? .caseLine text = some (.beforeExpectation minuend subtrahend) := by
  obtain ⟨expression, gap, endsExpression, blanks, rfl⟩ := ends
  have arrow : after? .caseLine (expression ++ ['='] ++ ['>']) =
      some (.beforeExpectation minuend subtrahend) := by
    rw [Stage.after?_concat, after?_equals endsExpression]
    rfl
  have all := (takesBlanks rfl).after?_append arrow blanks
  simpa using all

theorem after?_letters {minuend subtrahend : Operand} {line letters : List Char} {next : Stage}
    (ends : EndsArrow minuend subtrahend line)
    (spelled : ∀ position, run .caseLine position (.beforeExpectation minuend subtrahend) letters =
      some next) :
    after? .caseLine (line ++ letters) = some next := by
  have reached := after?_of_endsArrow ends
  rw [after?] at reached
  rw [after?, run_append, reached, Option.bind_some, spelled]

theorem after?_of_endsExpectation {minuend subtrahend : Operand} {overflow : Bool}
    (ends : EndsExpectation minuend subtrahend overflow text) :
    after? .caseLine text = some (.finished minuend subtrahend overflow) := by
  obtain ⟨line, gap, endsLine, blanks, rfl⟩ := ends
  have word : after? .caseLine (line ++ (Case.expectation overflow).toList) =
      some (.finished minuend subtrahend overflow) :=
    after?_letters endsLine fun position => by cases overflow <;> rfl
  exact (takesBlanks rfl).after?_append word blanks

end Stage

end SignedDifference
