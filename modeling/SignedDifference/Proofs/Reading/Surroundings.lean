import SignedDifference.Proofs.Reading.Display

/-!
# Blanks around an expression

A literal neither starts nor ends with a blank.  So an accepted expression is one without blanks
around it, between the blanks that trimming takes off, and it may be put between any others
(`exists_bare_of_parse`).
-/

set_option autoImplicit false

namespace SignedDifference

open Text (isBlank trim trim_append)

namespace PartialLiteral

variable {literal : PartialLiteral} {token : List Char} {c : Char}

theorem toNat_of_extend? {extended : PartialLiteral} (taken : literal.extend? c = some extended) :
    (48 ≤ c.toNat ∧ c.toNat ≤ 57) ∨ (65 ≤ c.toNat ∧ c.toNat ≤ 120) := by
  cases literal with
  | sign | hexMark =>
      obtain ⟨digit, read, _⟩ := Option.map_eq_some_iff.mp taken
      exact toNat_of_digit? read
  | m =>
      simp only [extend?] at taken
      split at taken
      · rename_i letter
        rw [letter]
        decide
      · simp only [Option.ite_none_right_eq_some] at taken
        rw [taken.1]
        decide
  | mi | ma =>
      simp only [extend?, Option.ite_none_right_eq_some] at taken
      rw [taken.1]
      decide
  | whole written => exact toNat_of_extendWhole? taken

theorem not_isBlank_of_extend? {extended : PartialLiteral}
    (taken : literal.extend? c = some extended) : isBlank c = false := by
  have range := toNat_of_extend? taken
  rw [Bool.eq_false_iff]
  intro blank
  have outside := Text.toNat_of_isBlank blank
  omega

theorem StandsFor.begins (stands : literal.StandsFor (c :: token)) :
    ∃ first, begin? c = some first := by
  have scanned := scan?_eq_some_iff.mpr stands
  rw [scan?, Option.bind_eq_some_iff] at scanned
  obtain ⟨first, begun, _⟩ := scanned
  exact ⟨first, begun⟩

theorem StandsFor.not_isBlank_last (stands : literal.StandsFor token)
    (last : token.getLast? = some c) : isBlank c = false := by
  obtain ⟨front, rfl⟩ := List.getLast?_eq_some_iff.mp last
  by_cases single : front = []
  · rw [single, List.nil_append] at stands
    exact not_isBlank_of_begin? (standsFor_singleton.mp stands)
  · obtain ⟨earlier, _, taken⟩ := (standsFor_concat single).mp stands
    exact not_isBlank_of_extend? taken

end PartialLiteral

theorem Literal.SpelledBy.exists_standsFor {literal : Literal} {token : List Char}
    (spelled : literal.SpelledBy token) : ∃ read : PartialLiteral, read.StandsFor token := by
  obtain ⟨written, spelledOut, _⟩ := Literal.spelledBy_iff.mp spelled
  exact ⟨.whole written, spelledOut⟩

/-- The text starts like a literal, ends without a blank, and is read as the subtraction whatever
blanks stand around it. -/
structure BareExpression (s : Subtraction) (text : List Char) : Prop where
  begins : ∃ c rest literal, text = c :: rest ∧ PartialLiteral.begin? c = some literal
  ends : ∀ c, text.getLast? = some c → isBlank c = false
  parse_eq : ∀ before after, Blanks before → Blanks after →
    parse (String.ofList (before ++ text ++ after)) = .ok s

def Layout.bare (layout : Layout) : List Char :=
  layout.first ++ (layout.afterFirst ++ '-' :: layout.beforeSecond) ++ layout.second

theorem Layout.text_eq_bare (layout : Layout) :
    layout.text = layout.before ++ layout.bare ++ layout.after := by
  simp [Layout.text, Layout.bare]

theorem Layout.Spells.bareExpression {layout : Layout} {s : Subtraction}
    (spells : layout.Spells s) : BareExpression s layout.bare where
  begins := by
    obtain ⟨literal, stands⟩ := spells.minuend.exists_standsFor
    obtain ⟨c, rest, same⟩ := List.exists_cons_of_ne_nil stands.nonempty
    rw [same] at stands
    obtain ⟨first, begun⟩ := stands.begins
    exact ⟨c, _, first, by rw [Layout.bare, same, List.cons_append, List.cons_append], begun⟩
  ends := by
    intro c last
    obtain ⟨literal, stands⟩ := spells.subtrahend.exists_standsFor
    rw [Layout.bare, List.getLast?_append_of_ne_nil _ stands.nonempty] at last
    exact stands.not_isBlank_last last
  parse_eq := by
    intro before after blanksBefore blanksAfter
    have respelled : Layout.Spells { layout with before := before, after := after } s :=
      ⟨blanksBefore, spells.blanksAfterFirst, spells.blanksBeforeSecond, blanksAfter,
        spells.minuend, spells.subtrahend⟩
    exact respelled.parse_eq_ok (by simp [Layout.text, Layout.bare])

namespace BareExpression

variable {s : Subtraction} {bare : List Char}

theorem head?_append (isBare : BareExpression s bare) (later : List Char) :
    ∀ c, (bare ++ later).head? = some c → isBlank c = false := by
  intro c first
  obtain ⟨d, rest, literal, rfl, begun⟩ := isBare.begins
  cases first
  exact PartialLiteral.not_isBlank_of_begin? begun

theorem nonempty (isBare : BareExpression s bare) : bare ≠ [] := by
  obtain ⟨c, rest, _, rfl, _⟩ := isBare.begins
  exact List.cons_ne_nil c rest

theorem trim_eq (isBare : BareExpression s bare) {before after : List Char}
    (blanksBefore : Blanks before) (blanksAfter : Blanks after) :
    trim (before ++ bare ++ after) = bare := by
  apply trim_append blanksBefore blanksAfter isBare.nonempty _ isBare.ends
  simpa using isBare.head?_append []

end BareExpression

theorem exists_bare_of_parse {text : String} {s : Subtraction} (accepted : parse text = .ok s) :
    ∃ before bare after, Blanks before ∧ Blanks after ∧ BareExpression s bare ∧
      text.toList = before ++ bare ++ after := by
  obtain ⟨minuend, subtrahend, ends, denotesFirst, denotesSecond⟩ := parse_eq_ok_iff.mp accepted
  obtain ⟨layout, whole, spells⟩ :=
    Layout.exists_of_endsSubtrahend ends denotesFirst denotesSecond
  exact ⟨layout.before, layout.bare, layout.after, spells.blanksBefore, spells.blanksAfter,
    spells.bareExpression, by rw [← whole, layout.text_eq_bare]⟩

end SignedDifference
