import SignedDifference.Proofs.Generator.Draws
import SignedDifference.Session.Response

/-!
# Generated cases in a session

A command to check generated cases names a count or none.  Whatever the words drawn, as many cases
are generated and every method passes all of them, so that the answer never tells of a mismatch
(`generated_cases_pass`).
-/

set_option autoImplicit false

namespace SignedDifference.Session

open Generator (drawCases drawOffset OffsetFits)

def requestedCount (argument : String) : Except CountError Nat :=
  if argument = "" then .ok defaultCount else readCount argument.toList

def refusedCount (argument : String) (error : CountError) : Entry :=
  .failure [.plain "Invalid case count ", .red argument, .plain (": " ++ error.message)]

def passedEntry (count : Nat) (method : Method) : Entry :=
  .line
    [.plain "  ", .green method.name, .plain ": ", .yellow (Numeral.decimal count),
     .plain " cases passed"]

def passedReport (count overflowing : Nat) : List Entry :=
  .generated count overflowing :: Method.all.map (passedEntry count)

/-- How many of the cases have operands whose difference lies outside the range. -/
def overflowing (cases : List Case) : Nat :=
  cases.countP fun case => !decide (InRange (case.a.toInt - case.b.toInt))

theorem expectOverflow_of_isRight {case : Case} (right : case.IsRight) :
    case.expectOverflow = !decide (InRange (case.a.toInt - case.b.toInt)) := by
  rw [Case.IsRight] at right
  rw [Bool.eq_iff_iff, right]
  simp

theorem length_filter_expectOverflow {cases : List Case} (right : ∀ case ∈ cases, case.IsRight) :
    (cases.filter Case.expectOverflow).length = overflowing cases := by
  rw [← List.countP_eq_length_filter, overflowing]
  apply List.countP_congr
  intro case member
  rw [expectOverflow_of_isRight (right case member)]

theorem generatedReport_drawCases (count : Nat) (source : WordSource) :
    generatedReport (drawCases count source).1 =
      passedReport count (overflowing (drawCases count source).1) := by
  have right := Generator.isRight_of_mem_drawCases count source
  have methods : methodReport (drawCases count source).1 = passedEntry count := by
    funext method
    rw [methodReport, Generator.checkMethod_drawCases]
    rfl
  rw [generatedReport, passedReport, Generator.length_drawCases,
    length_filter_expectOverflow right, methods]

theorem fuzz_eq (source : WordSource) (argument : String) :
    fuzz source argument =
      match requestedCount argument with
      | .ok count =>
          (generatedReport (drawCases count source).1, (drawCases count source).2)
      | .error error => ([refusedCount argument error], source) := by
  rw [fuzz, requestedCount]
  by_cases bare : argument = ""
  · rw [if_pos bare, if_pos bare]
  · rw [if_neg bare, if_neg bare]
    cases readCount argument.toList with
    | ok count => rfl
    | error error => rfl

theorem fuzz_of_requestedCount {argument : String} {count : Nat}
    (requested : requestedCount argument = .ok count) (source : WordSource) :
    fuzz source argument =
      (passedReport count (overflowing (drawCases count source).1),
        (drawCases count source).2) := by
  rw [fuzz_eq, requested]
  simp only [generatedReport_drawCases]

theorem fuzz_of_refused {argument : String} {error : CountError}
    (refused : requestedCount argument = .error error) (source : WordSource) :
    fuzz source argument = ([refusedCount argument error], source) := by
  rw [fuzz_eq, refused]

theorem respond_fuzz {line argument : String} (asked : Request.ofLine line = .fuzz argument)
    (source : WordSource) (prompt : Nat) :
    (respond source prompt line).entries = (fuzz source argument).1 := by
  rw [respond, asked]

/-- Whatever the words, as many cases are drawn as were asked for, with no sum outside the range;
every one expects what the exact difference says, and every method passes them all.  So a session
tells of as many passed cases for each method, or refuses a text that is no count. -/
theorem generated_cases_pass (source : WordSource) (count : Nat) :
    (drawCases count source).1.length = count ∧
      (∀ used, OffsetFits (drawOffset { source with used := used }).1) ∧
      (∀ case ∈ (drawCases count source).1,
        case.expectOverflow = true ↔ ¬ InRange (case.a.toInt - case.b.toInt)) ∧
      (∀ method, Suite.checkMethod method (drawCases count source).1 = .ok count) ∧
      ∀ prompt line argument, Request.ofLine line = .fuzz argument →
        (requestedCount argument = .ok count →
          (respond source prompt line).entries =
            passedReport count (overflowing (drawCases count source).1)) ∧
        ∀ error, requestedCount argument = .error error →
          (respond source prompt line).entries = [refusedCount argument error] := by
  refine ⟨Generator.length_drawCases count source, ?_, ?_, ?_, ?_⟩
  · intro used
    exact Generator.offsetFits_drawOffset _
  · intro case member
    exact Generator.isRight_of_mem_drawCases count source case member
  · intro method
    exact Generator.checkMethod_drawCases method count source
  · intro prompt line argument asked
    rw [respond_fuzz asked]
    constructor
    · intro requested
      rw [fuzz_of_requestedCount requested]
    · intro error refused
      rw [fuzz_of_refused refused]

/-- These words draw the least operand and then the greatest, three times over. -/
theorem three_overflows_pass :
    Request.ofLine ":fuzz 3" = .fuzz "3" ∧ requestedCount "3" = .ok 3 ∧
      (respond (.cyclic [0, 0x40000000, 0, 0x80000000]) 1 ":fuzz 3").entries = passedReport 3 3 ∧
      (⟨Int64.minValue, Int64.maxValue, true⟩ : Case).IsRight := by
  have asked : Request.ofLine ":fuzz 3" = .fuzz "3" := by cbv
  have requested : requestedCount "3" = .ok 3 := by cbv
  have drawn : (drawCases 3 (.cyclic [0, 0x40000000, 0, 0x80000000])).1 =
      List.replicate 3 ⟨Int64.minValue, Int64.maxValue, true⟩ := by decide
  obtain ⟨_, _, right, _, answered⟩ :=
    generated_cases_pass (.cyclic [0, 0x40000000, 0, 0x80000000]) 3
  have entries := (answered 1 ":fuzz 3" "3" asked).1 requested
  rw [drawn] at right entries
  exact ⟨asked, requested, entries, right _ (by simp)⟩

end SignedDifference.Session
