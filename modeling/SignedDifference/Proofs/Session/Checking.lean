import SignedDifference.Proofs.Reading.Surroundings
import SignedDifference.Proofs.Session.Isolation
import SignedDifference.Proofs.Session.RunReport

/-!
# Checks and evaluations

An expression is evaluated on a line of its own, and its two possible expectations are checked by a
command.  The command cuts the expression out of its line, with an expectation behind it, and checks
the case that this denotes (`respond_checkCommand`).  So one of the two checks passes, and it is the
one that expects what the evaluation shows (`checks_agree_with_evaluation`).
-/

set_option autoImplicit false

namespace SignedDifference.Session

/-! ## Coloured texts -/

def Segment.textIn? (colour : Colour) : Segment → Option String
  | .painted other text => if other = colour then some text else none
  | .plain _ => none

def Entry.textsIn (colour : Colour) : Entry → List String
  | .line segments => segments.filterMap (Segment.textIn? colour)
  | .diagnostic _ _ | .generated _ _ => []

def Entry.MarksOverflow (entry : Entry) : Prop :=
  "overflow, wrapped" ∈ entry.textsIn .red

theorem textsIn_evaluationEntry (prompt : Nat) (s : Subtraction) :
    (evaluationEntry prompt s).textsIn .yellow = [Numeral.decimal s.evaluate.wrapped.toInt] := by
  unfold evaluationEntry outcomeSegments
  cases s.evaluate.overflowed <;> rfl

theorem marksOverflow_evaluationEntry (prompt : Nat) (s : Subtraction) :
    (evaluationEntry prompt s).MarksOverflow ↔ s.evaluate.overflowed = true := by
  unfold Entry.MarksOverflow evaluationEntry outcomeSegments
  cases s.evaluate.overflowed <;>
    simp [Entry.textsIn, Segment.textIn?, Segment.green, Segment.yellow, Segment.red, Segment.blue]

theorem textsIn_lineOn (method : Method) (passed : Bool) (index : Nat) (case : Case) :
    (lineOn method passed index case).textsIn .yellow =
      [Numeral.decimal (method.subtract case.a case.b).wrapped.toInt] := by
  unfold lineOn outcomeSegments
  cases passed <;> cases (method.subtract case.a case.b).overflowed <;> rfl

/-! ## Reports on one case -/

def verdictReport (passed : Bool) (case : Case) : List Entry :=
  [lineOn .native passed 0 case, if passed then passedLine 1 else mismatchLine]

def Passes (entries : List Entry) : Prop :=
  ∃ case, entries = verdictReport true case

def Fails (entries : List Entry) : Prop :=
  ∃ case, entries = verdictReport false case

theorem passedLine_ne_mismatchLine (count : Nat) : passedLine count ≠ mismatchLine := by
  simp [passedLine, mismatchLine, Segment.yellow, Segment.red]

theorem passed_of_verdictReport_eq {passed other : Bool} {case otherCase : Case}
    (same : verdictReport passed case = verdictReport other otherCase) : passed = other := by
  have last : (if passed then passedLine 1 else mismatchLine) =
      if other then passedLine 1 else mismatchLine :=
    Option.some.inj (congrArg List.getLast? same)
  have differ := passedLine_ne_mismatchLine 1
  cases passed <;> cases other
  · rfl
  · exact absurd last differ.symm
  · exact absurd last differ
  · rfl

theorem passes_verdictReport {passed : Bool} {case : Case} :
    Passes (verdictReport passed case) ↔ passed = true := by
  constructor
  · intro passes
    obtain ⟨other, same⟩ := passes
    exact passed_of_verdictReport_eq same
  · intro isPass
    exact ⟨case, by rw [isPass]⟩

theorem fails_verdictReport {passed : Bool} {case : Case} :
    Fails (verdictReport passed case) ↔ passed = false := by
  constructor
  · intro fails
    obtain ⟨other, same⟩ := fails
    exact passed_of_verdictReport_eq same
  · intro isFailure
    exact ⟨case, by rw [isFailure]⟩

theorem runReport_singleton (case : Case) :
    runReport [case] .native = verdictReport (decide case.IsRight) case := by
  by_cases right : case.IsRight
  · have all : ∀ other ∈ [case], other.IsRight := by
      intro other member
      rwa [List.mem_singleton.mp member]
    rw [runReport_of_right .native all, decide_eq_true right]
    rfl
  · have first : Case.FirstWrong [case] 0 case := ⟨rfl, right, by simp⟩
    rw [runReport_of_firstWrong .native first, decide_eq_false right]
    rfl

/-! ## Lines with an expression -/

variable {text : String} {s : Subtraction}

def checkCommand (text : String) (overflow : Bool) : String :=
  ":check " ++ text ++ " => " ++ Case.expectation overflow

theorem head?_ne_colon (accepted : parse text = .ok s) : text.toList.head? ≠ some ':' := by
  obtain ⟨before, bare, after, blanksBefore, _, isBare, whole⟩ := exists_bare_of_parse accepted
  intro colon
  rw [whole] at colon
  cases before with
  | nil =>
      obtain ⟨c, rest, literal, rfl, begun⟩ := isBare.begins
      cases colon
      have refused : PartialLiteral.begin? ':' = none := by decide
      rw [refused] at begun
      simp at begun
  | cons c later =>
      cases colon
      have blank := blanksBefore ':' (by simp)
      exact absurd blank (by decide)

theorem ofLine_of_head? (first : text.toList.head? ≠ some ':') :
    Request.ofLine text = .evaluate text := by
  unfold Request.ofLine
  split
  · rename_i command colon
    rw [colon] at first
    exact absurd rfl first
  · rfl

theorem respond_evaluate {line : String} (asked : Request.ofLine line = .evaluate text)
    (source : WordSource) (prompt : Nat) :
    respond source prompt line = ⟨evaluate prompt text, source, false⟩ := by
  unfold respond
  rw [asked]

theorem respond_explain {line : String} (asked : Request.ofLine line = .explain text)
    (given : text ≠ "") (source : WordSource) (prompt : Nat) :
    respond source prompt line = ⟨explain prompt text, source, false⟩ := by
  unfold respond
  rw [asked]
  simp only [if_neg given]

theorem respond_of_parse (accepted : parse text = .ok s) (source : WordSource) (prompt : Nat) :
    (respond source prompt text).entries = [evaluationEntry prompt s] := by
  rw [respond_evaluate (ofLine_of_head? (head?_ne_colon accepted))]
  simp only [evaluate, accepted]

theorem parse_trimmed (accepted : parse text = .ok s) : parse (trimmed text.toList) = .ok s := by
  obtain ⟨before, bare, after, blanksBefore, blanksAfter, isBare, whole⟩ :=
    exists_bare_of_parse accepted
  have read := isBare.parse_eq [] [] blanks_nil blanks_nil
  rw [List.nil_append, List.append_nil] at read
  rwa [trimmed, whole, isBare.trim_eq blanksBefore blanksAfter]

/-! ## Commands with an expression -/

theorem ofLine_command {name argument : List Char} {gap : Char}
    (word : (name.all fun c => !Text.isBlank c) = true) (blank : Text.isBlank gap = true) :
    Request.ofLine (String.ofList (':' :: (name ++ gap :: argument))) =
      Request.ofCommand (String.ofList name) (trimmed argument) := by
  have within := List.all_eq_true.mp word
  have behind : Text.trim (gap :: argument) = Text.trim argument := by
    rw [Text.trim, Text.trimStart, List.dropWhile_cons_of_pos blank]
    rfl
  rw [Request.ofLine, String.toList_ofList]
  simp only
  rw [List.takeWhile_append_of_pos within, List.dropWhile_append_of_pos within,
    List.takeWhile_cons_of_neg (by simp [blank]), List.dropWhile_cons_of_neg (by simp [blank]),
    List.append_nil, behind, trimmed]

theorem trim_append_expectation {before front : List Char} (blanksBefore : Blanks before)
    (overflow : Bool)
    (first : ∀ c, (front ++ (Case.expectation overflow).toList).head? = some c →
      Text.isBlank c = false) :
    Text.trim (before ++ (front ++ (Case.expectation overflow).toList)) =
      front ++ (Case.expectation overflow).toList := by
  have word : (Case.expectation overflow).toList ≠ [] := by cases overflow <;> decide
  have nonempty : front ++ (Case.expectation overflow).toList ≠ [] :=
    List.append_ne_nil_of_right_ne_nil front word
  have last : ∀ c, (front ++ (Case.expectation overflow).toList).getLast? = some c →
      Text.isBlank c = false := by
    intro c
    rw [List.getLast?_append_of_ne_nil front word]
    cases overflow <;> (intro letter; cases letter; decide)
  have whole := Text.trim_append blanksBefore blanks_nil nonempty first last
  rwa [List.append_nil] at whole

theorem trimmed_checkCommand (text : String) (overflow : Bool) :
    trimmed (checkCommand text overflow).toList = checkCommand text overflow := by
  have cut : (checkCommand text overflow).toList =
      (":check " ++ text ++ " => ").toList ++ (Case.expectation overflow).toList :=
    String.toList_append
  have first : ∀ c, (checkCommand text overflow).toList.head? = some c →
      Text.isBlank c = false := by
    intro c colon
    simp only [checkCommand, String.toList_append] at colon
    cases colon
    decide
  rw [cut] at first
  have whole := trim_append_expectation blanks_nil overflow first
  rw [List.nil_append, ← cut] at whole
  rw [trimmed, whole, String.ofList_toList]

/-- The command is about an expression with the same result, which has no blanks in front. -/
theorem ofLine_checkCommand (accepted : parse text = .ok s) (overflow : Bool) :
    ∃ expression, parse expression = .ok s ∧
      Request.ofLine (checkCommand text overflow) =
        .check (expression ++ " => " ++ Case.expectation overflow) := by
  obtain ⟨before, bare, after, blanksBefore, blanksAfter, isBare, whole⟩ :=
    exists_bare_of_parse accepted
  have written : checkCommand text overflow =
      String.ofList (':' :: ("check".toList ++ ' ' :: (before ++
        (bare ++ (after ++ " => ".toList) ++ (Case.expectation overflow).toList)))) := by
    apply String.toList_injective
    simp [checkCommand, whole]
  have first : ∀ c, (bare ++ (after ++ " => ".toList) ++
      (Case.expectation overflow).toList).head? = some c → Text.isBlank c = false := by
    rw [List.append_assoc]
    exact isBare.head?_append _
  have argument := trim_append_expectation blanksBefore overflow first
  have cut :
      String.ofList (bare ++ (after ++ " => ".toList) ++ (Case.expectation overflow).toList) =
        String.ofList (bare ++ after) ++ " => " ++ Case.expectation overflow := by
    apply String.toList_injective
    simp
  refine ⟨String.ofList (bare ++ after), isBare.parse_eq [] after blanks_nil blanksAfter, ?_⟩
  rw [written, ofLine_command (by rfl) (by rfl), trimmed, argument, cut]
  rfl

theorem respond_checkCommand (accepted : parse text = .ok s) (overflow : Bool)
    (source : WordSource) (prompt : Nat) :
    (respond source prompt (checkCommand text overflow)).entries =
      runReport [CaseLine.toCase ⟨s, overflow⟩] .native := by
  obtain ⟨expression, parsed, asked⟩ := ofLine_checkCommand accepted overflow
  have given : expression ++ " => " ++ Case.expectation overflow ≠ "" := by
    intro empty
    have letters := congrArg String.toList empty
    simp at letters
  unfold respond
  rw [asked]
  simp only [if_neg given, check, parseCase_of_parse parsed overflow]

/-! ## Agreement -/

/-- What the answers to the two checks of a difference say, against the line that evaluates it and
against the exact difference. -/
structure ChecksAgree (a b : Int64) (evaluated : Entry) (answer : Bool → List Entry) : Prop where
  reports : ∀ overflow, ∃ passed, answer overflow = verdictReport passed ⟨a, b, overflow⟩
  one_passes : Passes (answer true) ↔ ¬ Passes (answer false)
  fails_iff : ∀ overflow, Fails (answer overflow) ↔ ¬ Passes (answer overflow)
  passes_iff : Passes (answer true) ↔ evaluated.MarksOverflow
  marks_iff : evaluated.MarksOverflow ↔ ¬ InRange (a.toInt - b.toInt)
  /-- All three lines show the word that is congruent to the exact difference. -/
  shown : ∃ word : Int64, word.toInt ≡ a.toInt - b.toInt [ZMOD 2 ^ 64] ∧
    evaluated.textsIn .yellow = [Numeral.decimal word.toInt] ∧
      ∀ overflow, ∃ verdict last, answer overflow = [verdict, last] ∧
        verdict.textsIn .yellow = [Numeral.decimal word.toInt]

theorem passes_checkCommand (accepted : parse text = .ok s) (overflow : Bool)
    (source : WordSource) (prompt : Nat) :
    Passes (respond source prompt (checkCommand text overflow)).entries ↔
      s.evaluate.overflowed = overflow := by
  rw [respond_checkCommand accepted, runReport_singleton, passes_verdictReport, decide_eq_true_iff,
    Case.isRight_iff .native]
  rfl

theorem fails_checkCommand (accepted : parse text = .ok s) (overflow : Bool)
    (source : WordSource) (prompt : Nat) :
    Fails (respond source prompt (checkCommand text overflow)).entries ↔
      s.evaluate.overflowed ≠ overflow := by
  rw [respond_checkCommand accepted, runReport_singleton, fails_verdictReport,
    decide_eq_false_iff_not, Case.isRight_iff .native]
  rfl

theorem checksAgree_of_parse (accepted : parse text = .ok s) (source : WordSource) (prompt : Nat) :
    ChecksAgree s.minuend.value s.subtrahend.value (evaluationEntry prompt s)
      fun overflow => (respond source prompt (checkCommand text overflow)).entries := by
  have represents := Method.native.represents_subtract s.minuend.value s.subtrahend.value
  constructor
  · intro overflow
    rw [respond_checkCommand accepted, runReport_singleton]
    exact ⟨_, rfl⟩
  · rw [passes_checkCommand accepted, passes_checkCommand accepted, Bool.not_eq_false]
  · intro overflow
    rw [passes_checkCommand accepted, fails_checkCommand accepted]
  · rw [passes_checkCommand accepted, marksOverflow_evaluationEntry]
  · rw [marksOverflow_evaluationEntry]
    exact represents.overflowed_iff
  · refine ⟨s.evaluate.wrapped, represents.congruent, textsIn_evaluationEntry prompt s, ?_⟩
    intro overflow
    rw [respond_checkCommand accepted, runReport_singleton]
    exact ⟨_, _, rfl, textsIn_lineOn _ _ _ _⟩

/-- Whatever the spelling, the blanks and the prompt, an accepted expression is evaluated on one
line, and this line bears out one of the checks for an overflow and for none, which passes.  The
session takes the command as it stands, and the expression with or without the blanks around it. -/
theorem checks_agree_with_evaluation (accepted : parse text = .ok s) (source : WordSource)
    (prompt : Nat) :
    (∀ overflow, trimmed (checkCommand text overflow).toList = checkCommand text overflow) ∧
      ∃ evaluated,
        (respond source prompt text).entries = [evaluated] ∧
          (respond source prompt (trimmed text.toList)).entries = [evaluated] ∧
          ChecksAgree s.minuend.value s.subtrahend.value evaluated
            fun overflow => (respond source prompt (checkCommand text overflow)).entries := by
  refine ⟨trimmed_checkCommand text, evaluationEntry prompt s, ?_, ?_, ?_⟩
  · exact respond_of_parse accepted source prompt
  · exact respond_of_parse (parse_trimmed accepted) source prompt
  · exact checksAgree_of_parse accepted source prompt

/-- A bit pattern and blanks in odd places: the difference is one below the range. -/
theorem checks_of_padded_pattern :
    parse " 0X8000000000000000-\t1 " = .ok ⟨.hex 0x8000000000000000, .int 1⟩ ∧
      Passes (respond (.cyclic []) 7 ":check  0X8000000000000000-\t1  => overflow").entries ∧
      Fails (respond (.cyclic []) 7 ":check  0X8000000000000000-\t1  => ok").entries := by
  have accepted : parse " 0X8000000000000000-\t1 " = .ok ⟨.hex 0x8000000000000000, .int 1⟩ := by
    rw [parse, read_eq_verdict]
    rfl
  obtain ⟨_, evaluated, _, _, agree⟩ := checks_agree_with_evaluation accepted (.cyclic []) 7
  have passes := agree.passes_iff.mpr (agree.marks_iff.mpr (by decide))
  have fails := (agree.fails_iff false).mpr (agree.one_passes.mp passes)
  exact ⟨accepted, passes, fails⟩

end SignedDifference.Session
