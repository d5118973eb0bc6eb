import SignedDifference.Proofs.Session.Checking

/-!
# Explaining extends evaluating

A text that is evaluated when it is entered alone can be explained by a command.  Whatever the name
of the command and the blanks around the text, the command is about this text and no other
(`AsksToExplain.ofLine_eq`).  So the response to the command is that to the text alone, with the
explanation behind it if the text is accepted (`explanation_extends_evaluation`).
-/

set_option autoImplicit false

namespace SignedDifference.Session

/-- What can be entered to be evaluated: a text that is no command and has no blanks around it. -/
structure IsEntry (text : String) : Prop where
  nonempty : text ≠ ""
  begins : ∀ c, text.toList.head? = some c → c ≠ ':' ∧ Text.isBlank c = false
  ends : ∀ c, text.toList.getLast? = some c → Text.isBlank c = false

/-- The line asks to explain the text, by a name of the command and with blanks in front of the text
and perhaps behind it. -/
inductive AsksToExplain (text : String) : String → Prop
  | command {name gap after : String} : name ∈ ["explain", "ex", "!"] → gap ≠ "" →
      Blanks gap.toList → Blanks after.toList →
        AsksToExplain text (":" ++ name ++ gap ++ text ++ after)

variable {text line : String}

theorem explain_of_named {name : String} (named : name ∈ ["explain", "ex", "!"]) :
    (name.toList.all fun c => !Text.isBlank c) = true ∧
      ∀ argument, Request.ofCommand name argument = .explain argument := by
  simp only [List.mem_cons, List.not_mem_nil, or_false] at named
  rcases named with rfl | rfl | rfl
  all_goals exact ⟨rfl, fun _ => rfl⟩

theorem IsEntry.ofLine_eq (entry : IsEntry text) : Request.ofLine text = .evaluate text := by
  apply ofLine_of_head?
  intro colon
  exact (entry.begins ':' colon).1 rfl

theorem IsEntry.trimmed_eq (entry : IsEntry text) {before after : List Char}
    (blanksBefore : Blanks before) (blanksAfter : Blanks after) :
    trimmed (before ++ text.toList ++ after) = text := by
  have nonempty : text.toList ≠ [] := mt String.toList_eq_nil_iff.mp entry.nonempty
  have first : ∀ c, text.toList.head? = some c → Text.isBlank c = false :=
    fun c found => (entry.begins c found).2
  rw [trimmed, Text.trim_append blanksBefore blanksAfter nonempty first entry.ends,
    String.ofList_toList]

theorem AsksToExplain.ofLine_eq (asks : AsksToExplain text line) (entry : IsEntry text) :
    Request.ofLine line = .explain text := by
  cases asks with
  | @command name gap after named gapped blanks blanksAfter =>
      obtain ⟨c, rest, letters⟩ : ∃ c rest, gap.toList = c :: rest :=
        List.exists_cons_of_ne_nil (mt String.toList_eq_nil_iff.mp gapped)
      rw [letters] at blanks
      have written : ":" ++ name ++ gap ++ text ++ after =
          String.ofList (':' :: (name.toList ++ c :: (rest ++ text.toList ++ after.toList))) := by
        apply String.toList_injective
        simp [letters]
      obtain ⟨word, takes⟩ := explain_of_named named
      have blanksRest : Blanks rest := fun d member => blanks d (List.mem_cons_of_mem c member)
      rw [written, ofLine_command word (blanks c List.mem_cons_self),
        entry.trimmed_eq blanksRest blanksAfter, String.ofList_toList, takes]

/-- At any prompt, the response to the command is the response to the text alone, with the lines of
the explanation behind it.  If the text is refused there are none, and both show the same
diagnostics at the same places. -/
theorem explanation_extends_evaluation (entry : IsEntry text) (asks : AsksToExplain text line)
    (source : WordSource) (prompt : Nat) :
    (∀ s, parse text = .ok s →
      respond source prompt line =
        { respond source prompt text with
          entries := (respond source prompt text).entries ++ (Explanation.of s).entries }) ∧
      ∀ errors, parse text = .error errors →
        respond source prompt line = respond source prompt text ∧
          (respond source prompt text).entries = errors.map (diagnose prompt text) := by
  rw [respond_explain (asks.ofLine_eq entry) entry.nonempty, respond_evaluate entry.ofLine_eq]
  constructor
  · intro s accepted
    simp only [explain, evaluate, accepted, List.singleton_append]
  · intro errors refused
    simp only [explain, evaluate, refused, diagnoseAll, and_self]

/-- A line break inside the text, and blanks of several bytes around it. -/
theorem explanation_of_broken_line :
    parse "MIN -\u20281" = .ok ⟨.min, .int 1⟩ ∧
      (respond (.cyclic []) 3 ":!\u00a0\tMIN -\u20281\u3000").entries =
        (respond (.cyclic []) 3 "MIN -\u20281").entries ++
          (Explanation.of ⟨.min, .int 1⟩).entries := by
  have accepted : parse "MIN -\u20281" = .ok ⟨.min, .int 1⟩ := by
    rw [parse, read_eq_verdict]
    rfl
  have entry : IsEntry "MIN -\u20281" := by
    refine ⟨by decide, ?_, ?_⟩
    · intro c found
      cases found
      decide
    · intro c found
      cases found
      decide
  have gap : Blanks "\u00a0\t".toList := by
    intro c member
    simp only [String.reduceToList, List.mem_cons, List.not_mem_nil, or_false] at member
    rcases member with rfl | rfl <;> decide
  have after : Blanks "\u3000".toList := by
    intro c member
    simp only [String.reduceToList, List.mem_cons, List.not_mem_nil, or_false] at member
    rw [member]
    decide
  have asks : AsksToExplain "MIN -\u20281" ":!\u00a0\tMIN -\u20281\u3000" :=
    AsksToExplain.command (by decide : "!" ∈ ["explain", "ex", "!"]) (by decide) gap after
  have extended := (explanation_extends_evaluation entry asks (.cyclic []) 3).1 _ accepted
  exact ⟨accepted, congrArg Response.entries extended⟩

end SignedDifference.Session
