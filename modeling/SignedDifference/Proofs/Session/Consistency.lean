import SignedDifference.Proofs.Outcome.Excess
import SignedDifference.Proofs.Session.Checking

/-!
# Explanations agree with themselves

The response to a request to explain tells of a difference on several lines that are computed apart:
the evaluation, the exact difference, the range, the signs and the methods.  What each line says of
overflow comes down to whether the exact difference lies in the range, and what the shown word lacks
of the exact difference is the excess.  So the lines cannot contradict each other
(`explanation_agrees_with_itself`).
-/

set_option autoImplicit false

namespace SignedDifference.Session

/-! ## Lines of a response -/

/-- What a line starts with, unless it is coloured. -/
def Entry.heading? : Entry → Option String
  | .line (.plain text :: _) => some text
  | .line _ | .diagnostic _ _ | .generated _ _ => none

def linesUnder (heading : String) (entries : List Entry) : List Entry :=
  entries.filter fun entry => entry.heading? == some heading

def Entry.CarriesMark (entry : Entry) : Prop :=
  ∃ text ∈ entry.textsIn .yellow, " (overflow)".toList <:+ text.toList

def Entry.ShowsNumber (n : Int) (entry : Entry) : Prop :=
  ∃ mark ∈ ["", " (overflow)"], entry.textsIn .yellow = [Numeral.decimal n ++ mark]

/-- The lines of a response that tell of a difference. -/
structure Account where
  first : Entry
  exact : Entry
  range : Entry
  signs : Entry
  methods : List Entry

/-- The lines stand in the response under their headings, and no others do. -/
structure Account.FoundIn (account : Account) (response : List Entry) : Prop where
  first : response.head? = some account.first
  exact : linesUnder "  Exact Difference: " response = [account.exact]
  range : linesUnder "  In Range [" response = [account.range]
  signs : linesUnder "  Sign Rule: " response = [account.signs]
  methods : linesUnder "    " response = account.methods

/-- The lines tell the same of the difference of `a` and `b`. -/
structure Account.Agrees (account : Account) (a b : Int64) : Prop where
  marks_iff : account.first.MarksOverflow ↔ ¬ InRange (a.toInt - b.toInt)
  no_iff : "no" ∈ account.range.textsIn .red ↔ account.first.MarksOverflow
  yes_iff : "yes" ∈ account.range.textsIn .green ↔ ¬ account.first.MarksOverflow
  flips_iff :
    "operands differ in sign, result flips the sign of the minuend" ∈ account.signs.textsIn .blue ↔
      account.first.MarksOverflow
  three_methods : account.methods.length = 3
  carries_iff : ∀ line ∈ account.methods, line.CarriesMark ↔ account.first.MarksOverflow
  /-- One word is shown on the first line and by all methods.  It is the exact difference, or lacks
  two to the 64th power of it, in the direction that the sign of the minuend gives. -/
  shown : ∃ word : Int64,
    account.first.ShowsNumber word.toInt ∧
      (∀ line ∈ account.methods, line.ShowsNumber word.toInt) ∧
      account.exact.ShowsNumber (a.toInt - b.toInt) ∧
      (¬ account.first.MarksOverflow → a.toInt - b.toInt = word.toInt) ∧
      (account.first.MarksOverflow →
        a.toInt - b.toInt = word.toInt + if 0 ≤ a.toInt then 2 ^ 64 else -2 ^ 64)

/-! ## Lines of an explanation -/

def exactLine (exact : Int) : Entry :=
  .line [.plain "  Exact Difference: ", .yellow (Numeral.decimal exact)]

def rangeLine (inRange : Bool) : Entry :=
  .line
    [.plain "  In Range [", .blue (Numeral.decimal leastWord), .plain ", ",
     .blue (Numeral.decimal greatestWord), .plain "]: ",
     if inRange then .green "yes" else .red "no"]

def signLine (signs : SignRelation) : Entry :=
  .line [.plain "  Sign Rule: ", .blue signs.description]

def accountOf (prompt : Nat) (s : Subtraction) : Account where
  first := evaluationEntry prompt s
  exact := exactLine (Explanation.of s).exact
  range := rangeLine (Explanation.of s).inRange
  signs := signLine (Explanation.of s).signs
  methods := (Explanation.of s).methods.map fun answer =>
    Explanation.methodEntry answer.1 answer.2

theorem accountOf_foundIn (prompt : Nat) (s : Subtraction) :
    (accountOf prompt s).FoundIn (evaluationEntry prompt s :: (Explanation.of s).entries) where
  first := rfl
  exact := rfl
  range := rfl
  signs := rfl
  methods := rfl

/-! ## What each line says -/

theorem showsNumber_of_textsIn {entry : Entry} {n : Int}
    (shown : entry.textsIn .yellow = [Numeral.decimal n]) : entry.ShowsNumber n :=
  ⟨"", by simp, by rw [shown, String.append_empty]⟩

theorem no_mem_rangeLine (inRange : Bool) :
    "no" ∈ (rangeLine inRange).textsIn .red ↔ inRange = false := by
  cases inRange <;> simp [rangeLine, Entry.textsIn, Segment.textIn?, Segment.blue, Segment.green,
    Segment.red]

theorem yes_mem_rangeLine (inRange : Bool) :
    "yes" ∈ (rangeLine inRange).textsIn .green ↔ inRange = true := by
  cases inRange <;> simp [rangeLine, Entry.textsIn, Segment.textIn?, Segment.blue, Segment.green,
    Segment.red]

theorem flips_mem_signLine (signs : SignRelation) :
    "operands differ in sign, result flips the sign of the minuend" ∈
      (signLine signs).textsIn .blue ↔ signs = .lost := by
  cases signs <;> simp [signLine, Entry.textsIn, Segment.textIn?, Segment.blue,
    SignRelation.description]

theorem SignRelation.of_eq_lost_iff (a b wrapped : Int64) :
    SignRelation.of a b wrapped = .lost ↔ Method.signFlag a b wrapped = true := by
  simp only [SignRelation.of, Method.signFlag, ← Int64.not_le]
  by_cases minuend : 0 ≤ a <;> by_cases subtrahend : 0 ≤ b <;> by_cases word : 0 ≤ wrapped <;>
    simp [minuend, subtrahend, word]

theorem textsIn_methodEntry (method : Method) (outcome : Outcome) :
    (Explanation.methodEntry method outcome).textsIn .yellow = [outcome.display] :=
  rfl

theorem not_marked_decimal (n : Int) : ¬ " (overflow)".toList <:+ (Numeral.decimal n).toList := by
  intro marked
  have bracket : ')' ∈ (Numeral.decimal n).toList := marked.subset (by decide)
  exact Numeral.not_mem_decimal (by decide) (by decide) n bracket

theorem carriesMark_methodEntry (method : Method) (outcome : Outcome) :
    (Explanation.methodEntry method outcome).CarriesMark ↔ outcome.overflowed = true := by
  constructor
  · intro carries
    obtain ⟨text, member, marked⟩ := carries
    rw [textsIn_methodEntry, List.mem_singleton] at member
    by_contra kept
    rw [member, Outcome.display, if_neg kept] at marked
    exact not_marked_decimal _ marked
  · intro overflowed
    refine ⟨outcome.display, by rw [textsIn_methodEntry, List.mem_singleton], ?_⟩
    rw [Outcome.display, if_pos overflowed, String.toList_append]
    exact List.suffix_append _ _

theorem showsNumber_methodEntry (method : Method) (outcome : Outcome) :
    (Explanation.methodEntry method outcome).ShowsNumber outcome.wrapped.toInt := by
  by_cases overflowed : outcome.overflowed = true
  · refine ⟨" (overflow)", by simp, ?_⟩
    rw [textsIn_methodEntry, Outcome.display, if_pos overflowed]
  · refine ⟨"", by simp, ?_⟩
    rw [textsIn_methodEntry, Outcome.display, if_neg overflowed, String.append_empty]

/-! ## Agreement -/

theorem marksOverflow_iff_outside (prompt : Nat) (s : Subtraction) :
    (evaluationEntry prompt s).MarksOverflow ↔
      ¬ InRange (exactDifference s.minuend.value s.subtrahend.value) :=
  (marksOverflow_evaluationEntry prompt s).trans
    (Method.native.represents_subtract s.minuend.value s.subtrahend.value).overflowed_iff

theorem exists_method_of_mem {prompt : Nat} {s : Subtraction} {line : Entry}
    (member : line ∈ (accountOf prompt s).methods) :
    ∃ method : Method, line =
      Explanation.methodEntry method (method.subtract s.minuend.value s.subtrahend.value) := by
  obtain ⟨answer, answered, rfl⟩ := List.mem_map.mp member
  obtain ⟨method, _, rfl⟩ := List.mem_map.mp answered
  exact ⟨method, rfl⟩

theorem signs_eq_lost_iff (s : Subtraction) :
    (Explanation.of s).signs = .lost ↔
      ¬ InRange (exactDifference s.minuend.value s.subtrahend.value) := by
  change SignRelation.of s.minuend.value s.subtrahend.value
    (s.minuend.value - s.subtrahend.value) = .lost ↔ _
  rw [SignRelation.of_eq_lost_iff, Method.signFlag_eq, Bool.not_eq_true', decide_eq_false_iff_not]

theorem accountOf_agrees (prompt : Nat) (s : Subtraction) :
    (accountOf prompt s).Agrees s.minuend.value s.subtrahend.value := by
  have marks := marksOverflow_iff_outside prompt s
  constructor
  · exact marks
  · exact (no_mem_rangeLine _).trans (decide_eq_false_iff_not.trans marks.symm)
  · exact (yes_mem_rangeLine _).trans (decide_eq_true_iff.trans (not_iff_comm.mp marks.symm).symm)
  · exact (flips_mem_signLine _).trans ((signs_eq_lost_iff s).trans marks.symm)
  · rfl
  · intro line member
    obtain ⟨method, rfl⟩ := exists_method_of_mem member
    have flag := (method.represents_subtract s.minuend.value s.subtrahend.value).overflowed_iff
    exact (carriesMark_methodEntry _ _).trans (flag.trans marks.symm)
  · refine ⟨s.minuend.value - s.subtrahend.value, ?_, ?_, ?_, ?_, ?_⟩
    · exact showsNumber_of_textsIn (textsIn_evaluationEntry prompt s)
    · intro line member
      obtain ⟨method, rfl⟩ := exists_method_of_mem member
      have shown := showsNumber_methodEntry method
        (method.subtract s.minuend.value s.subtrahend.value)
      rwa [Method.wrapped_subtract] at shown
    · exact showsNumber_of_textsIn rfl
    · intro unmarked
      have within : InRange (exactDifference s.minuend.value s.subtrahend.value) := by
        by_contra outside
        exact unmarked (marks.mpr outside)
      have lacks := (inRange_iff_excess _ _).mp within
      exact (exactDifference_eq _ _).trans (by rw [lacks, Int.add_zero])
    · intro marked
      have lacks := excess_of_not_inRange (marks.mp marked)
      exact (exactDifference_eq _ _).trans (by rw [lacks])

theorem respond_of_explain {line text : String} {s : Subtraction}
    (asked : Request.ofLine line = .explain text) (accepted : parse text = .ok s)
    (source : WordSource) (prompt : Nat) :
    (respond source prompt line).entries =
      evaluationEntry prompt s :: (Explanation.of s).entries := by
  have given : text ≠ "" := by
    rintro rfl
    have refused : parse "" = .error [.unexpected ⟨0, 0⟩ none [.operand]] := by
      rw [parse, read_eq_verdict]
      rfl
    rw [refused] at accepted
    simp at accepted
  rw [respond_explain asked given]
  simp only [explain, accepted]

theorem exists_explain_line (s : Subtraction) :
    ∃ line text, Request.ofLine line = .explain text ∧ parse text = .ok s := by
  have accepted : parse s.display = .ok s :=
    parse_of_spellings s.minuend.spelledBy_display s.subtrahend.spelledBy_display
  have asked := @ofLine_command "explain".toList s.display.toList ' ' (by rfl) (by rfl)
  exact ⟨_, _, asked, parse_trimmed accepted⟩

/-- Whichever line asks to explain a subtraction, in whatever spelling, the lines of the response
that tell of the difference tell the same. -/
theorem explanation_agrees_with_itself (s : Subtraction) (source : WordSource) (prompt : Nat) :
    (∃ line text, Request.ofLine line = .explain text ∧ parse text = .ok s) ∧
      ∀ line text, Request.ofLine line = .explain text → parse text = .ok s →
        ∃ account : Account, account.FoundIn (respond source prompt line).entries ∧
          account.Agrees s.minuend.value s.subtrahend.value := by
  refine ⟨exists_explain_line s, ?_⟩
  intro line text asked accepted
  refine ⟨accountOf prompt s, ?_, accountOf_agrees prompt s⟩
  rw [respond_of_explain asked accepted]
  exact accountOf_foundIn prompt s

/-- One less than the least word wraps to the greatest, and each of the other lines says so. -/
theorem explanation_below_the_range :
    Request.ofLine ":! MIN - 1" = .explain "MIN - 1" ∧ parse "MIN - 1" = .ok ⟨.min, .int 1⟩ ∧
      ∃ account : Account, account.FoundIn (respond (.cyclic []) 1 ":! MIN - 1").entries ∧
        "no" ∈ account.range.textsIn .red ∧ ∀ line ∈ account.methods, line.CarriesMark := by
  have asked : Request.ofLine ":! MIN - 1" = .explain "MIN - 1" := by cbv
  have accepted : parse "MIN - 1" = .ok ⟨.min, .int 1⟩ := by
    rw [parse, read_eq_verdict]
    rfl
  obtain ⟨account, found, agrees⟩ :=
    (explanation_agrees_with_itself ⟨.min, .int 1⟩ (.cyclic []) 1).2 _ _ asked accepted
  have marked : account.first.MarksOverflow := agrees.marks_iff.mpr (by decide)
  refine ⟨asked, accepted, account, found, agrees.no_iff.mpr marked, ?_⟩
  intro line member
  exact (agrees.carries_iff line member).mpr marked

end SignedDifference.Session
