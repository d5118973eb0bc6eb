import SignedDifference.Proofs.Reading.Verdict
import SignedDifference.Reading.Completion

/-!
# The list of errors

A refused text has at most one error for each operand that was read to its end, in text order, and
then at most one grammar error.  The operands of the stage where reading stopped are those that the
text completes (`mem_operands_iff_completed`), so no error is lost, repeated or left over from an
attempt that was given up (`read_errors_shape`).
-/

set_option autoImplicit false

namespace SignedDifference

open Text (byteCount byteCount_append isBlank)

namespace PartialLiteral

theorem exists_standsFor_of_append {token : List Char} (nonempty : token ≠ []) :
    ∀ {later : List Char} {literal : PartialLiteral}, literal.StandsFor (token ++ later) →
      ∃ earlier : PartialLiteral, earlier.StandsFor token := by
  intro later
  induction later using List.reverseRecOn with
  | nil => intro literal stands; exact ⟨literal, by rwa [List.append_nil] at stands⟩
  | append_singleton later c ih =>
      intro literal stands
      rw [← List.append_assoc] at stands
      obtain ⟨earlier, standsEarlier, _⟩ := exists_earlier (by simp [nonempty]) stands
      exact ih standsEarlier

/-- Some literal starts with the token and goes on with `c` exactly if the reader takes `c`. -/
theorem exists_spelledBy_iff {written : WrittenLiteral} {token : List Char} {c : Char}
    (spelled : written.SpelledBy token) :
    (∃ (later : List Char) (longer : WrittenLiteral), longer.SpelledBy (token ++ c :: later)) ↔
      ∃ extended, extendWhole? c written = some extended := by
  have stands : (PartialLiteral.whole written).StandsFor token := spelled
  constructor
  · intro longerToken
    obtain ⟨later, longer, spelledLonger⟩ := longerToken
    rw [← List.singleton_append, ← List.append_assoc] at spelledLonger
    have standsLonger : (PartialLiteral.whole longer).StandsFor (token ++ [c] ++ later) :=
      spelledLonger
    obtain ⟨extended, standsExtended⟩ := exists_standsFor_of_append (by simp) standsLonger
    obtain ⟨earlier, standsEarlier, taken⟩ := exists_earlier stands.nonempty standsExtended
    rw [standsEarlier.unique stands] at taken
    exact ⟨extended, taken⟩
  · intro goesOn
    obtain ⟨extended, taken⟩ := goesOn
    obtain ⟨later, longer, spelledLonger⟩ :=
      exists_completion (standsFor_extend (c := c) stands taken)
    exact ⟨later, longer, by simpa using spelledLonger⟩

end PartialLiteral

theorem completedIn_of_endsOperand {opens : List Char → Prop} {operand : Operand}
    {text later : List Char} (opening : ∀ front, opens front → OpensOperand front)
    (ends : EndsOperand opens operand text)
    (separated : ∀ c, later.head? = some c → Separates c) :
    operand.CompletedIn (text ++ later) := by
  obtain ⟨front, token, gap, opened, covers, blanks, rfl⟩ := ends
  refine ⟨front, token, gap ++ later, opening front opened, covers, by simp, ?_⟩
  intro c following more written spelled
  have separates : Separates c := by
    cases gap with
    | nil => exact separated c following
    | cons d rest =>
        cases following
        exact Or.inl (blanks c (by simp))
  obtain ⟨extended, taken⟩ :=
    (PartialLiteral.exists_spelledBy_iff covers.1).mp ⟨more, written, spelled⟩
  rw [PartialLiteral.extendWhole?_eq_none separates] at taken
  simp at taken

theorem completedIn_of_endsMinus {minuend : Operand} {text : List Char}
    (ends : EndsMinus minuend text) (later : List Char) : minuend.CompletedIn (text ++ later) := by
  obtain ⟨left, gap, endsLeft, _, rfl⟩ := ends
  rw [List.append_assoc]
  apply completedIn_of_endsOperand (fun _ blanks => Or.inl blanks) endsLeft
  intro c following
  cases following
  exact Or.inr (Or.inl rfl)

namespace Stage

def operands : Stage → List Operand
  | .beforeMinuend | .inMinuend _ _ => []
  | .afterMinuend minuend | .beforeSubtrahend minuend | .inSubtrahend minuend _ _ => [minuend]
  | .afterSubtrahend minuend subtrahend | .afterEquals minuend subtrahend
  | .beforeExpectation minuend subtrahend | .afterO minuend subtrahend
  | .inOverflow minuend subtrahend _ _ | .finished minuend subtrahend _ => [minuend, subtrahend]

theorem length_operands_le (stage : Stage) : stage.operands.length ≤ 2 := by
  cases stage <;> simp [operands]

variable {form : Form} {text : List Char} {stage next : Stage} {position : Nat} {c : Char}
  {operand : Operand}

theorem mem_operands_extend (taken : stage.extend? c = some next)
    (member : operand ∈ stage.operands) : operand ∈ next.operands := by
  cases stage with
  | inMinuend start literal => simp [operands] at member
  | inSubtrahend minuend start literal =>
      obtain ⟨longer, _, rfl⟩ := Option.map_eq_some_iff.mp taken
      exact member
  | _ => simp [extend?] at taken

theorem mem_operands_settle (ended : stage.settle? position = some next)
    (member : operand ∈ stage.operands) : operand ∈ next.operands := by
  cases stage with
  | inMinuend start literal => simp [operands] at member
  | inSubtrahend minuend start literal =>
      obtain ⟨written, _, rfl⟩ := Option.map_eq_some_iff.mp ended
      exact List.mem_append_left _ member
  | _ => cases ended; exact member

theorem operands_proceed (taken : stage.proceed? form position c = some next) :
    next.operands = stage.operands := by
  cases stage with
  | inMinuend | inSubtrahend => simp [proceed?] at taken
  | inOverflow minuend subtrahend letter rest => cases rest <;> grind [proceed?, operands]
  | _ => grind [proceed?, operands, Option.map_eq_some_iff]

theorem mem_operands_next (taken : stage.next? form position c = some next)
    (member : operand ∈ stage.operands) : operand ∈ next.operands := by
  unfold next? at taken
  split at taken
  · rename_i extended longer
    cases taken
    exact mem_operands_extend longer member
  · obtain ⟨settled, ended, proceeded⟩ := Option.bind_eq_some_iff.mp taken
    rw [operands_proceed proceeded]
    exact mem_operands_settle ended member

theorem mem_operands_append (reached : after? form text = some stage)
    (member : operand ∈ stage.operands) :
    ∀ {later : List Char} {final : Stage}, after? form (text ++ later) = some final →
      operand ∈ final.operands := by
  intro later
  induction later using List.reverseRecOn with
  | nil =>
      intro final reachedFinal
      rw [List.append_nil, reached] at reachedFinal
      cases reachedFinal
      exact member
  | append_singleton later c ih =>
      intro final reachedFinal
      rw [← List.append_assoc, after?_concat, Option.bind_eq_some_iff] at reachedFinal
      obtain ⟨middle, reachedMiddle, taken⟩ := reachedFinal
      exact mem_operands_next taken (ih reachedMiddle)

theorem mem_operands_settled (member : operand ∈ stage.operands) :
    operand ∈ (stage.settled position).operands := by
  cases ended : stage.settle? position with
  | none => rwa [settled_eq_self ended]
  | some next =>
      rw [settled_eq ended]
      exact mem_operands_settle ended member

/-- A whole literal that what follows does not go on with is an operand of the stage. -/
theorem AroundOperand.mem_operands {before : Stage} {within : Nat → PartialLiteral → Stage}
    {ended : Operand → Stage} (around : AroundOperand form before within ended)
    (own : ∀ operand, operand ∈ (ended operand).operands) {front token after : List Char}
    (opened : after? form front = some before) (covers : operand.Covers front token)
    (maximal : ∀ c, after.head? = some c → ∀ (later : List Char) (written : WrittenLiteral),
      ¬ written.SpelledBy (token ++ c :: later))
    (reached : after? form (front ++ token ++ after) = some stage) :
    operand ∈ (stage.settled (byteCount (front ++ token ++ after))).operands := by
  obtain ⟨spelled, placed⟩ := covers
  have stands : (PartialLiteral.whole operand.written).StandsFor token := spelled
  have literal := around.after?_token opened stands
  have ends : ∀ position, position = byteCount (front ++ token) →
      (within (byteCount front) (.whole operand.written)).settle? position =
        some (ended operand) := by
    rintro _ rfl
    rw [around.settle_eq, PartialLiteral.complete?, Option.map_some, ← placed]
  cases after with
  | nil =>
      rw [List.append_nil] at reached ⊢
      rw [literal] at reached
      cases reached
      rw [settled_eq (ends _ rfl)]
      exact own operand
  | cons c later =>
      have refused : PartialLiteral.extendWhole? c operand.written = none := by
        rw [Option.eq_none_iff_forall_ne_some]
        intro extended taken
        obtain ⟨more, written, spelledLonger⟩ :=
          (PartialLiteral.exists_spelledBy_iff spelled).mpr ⟨extended, taken⟩
        exact maximal c rfl more written spelledLonger
      rw [← List.singleton_append, ← List.append_assoc] at reached
      obtain ⟨next, reachedNext⟩ := exists_after?_of_append reached
      have proceeded :
          (ended operand).proceed? form (byteCount (front ++ token)) c = some next := by
        rw [Stage.after?_concat, literal, Option.bind_some, next?, around.extends_eq,
          PartialLiteral.extend?, refused] at reachedNext
        simpa only [Option.map_none, ends _ rfl, Option.bind_some] using reachedNext
      have member : operand ∈ next.operands := by
        rw [operands_proceed proceeded]
        exact own operand
      exact mem_operands_settled (mem_operands_append reachedNext member reached)

theorem mem_operands_of_completed (reached : after? form text = some stage)
    (completed : operand.CompletedIn text) :
    operand ∈ (stage.settled (byteCount text)).operands := by
  obtain ⟨front, token, after, blanks | ⟨minuend, ends⟩, covers, rfl, maximal⟩ := completed
  · exact (aroundMinuend form).mem_operands (fun _ => List.mem_singleton.mpr rfl)
      (after?_of_blanks blanks) covers maximal reached
  · exact (aroundSubtrahend form minuend).mem_operands (fun _ => by simp [operands])
      (after?_of_endsMinus ends) covers maximal reached

theorem completedIn_of_endsSubtrahend {minuend subtrahend : Operand} {expression : List Char}
    (ends : EndsSubtrahend minuend subtrahend expression) {later : List Char}
    (separated : ∀ c, later.head? = some c → Separates c) :
    ∀ operand ∈ [minuend, subtrahend], operand.CompletedIn (expression ++ later) := by
  intro operand member
  simp only [List.mem_cons, List.not_mem_nil, or_false] at member
  rcases member with rfl | rfl
  · obtain ⟨front, token, gap, endsMinus, _, _, rfl⟩ := ends
    rw [List.append_assoc, List.append_assoc]
    exact completedIn_of_endsMinus endsMinus _
  · exact completedIn_of_endsOperand (fun _ endsMinus => Or.inr ⟨minuend, endsMinus⟩) ends separated

theorem exists_expression_of_endsArrow {minuend subtrahend : Operand} {line : List Char}
    (ends : EndsArrow minuend subtrahend line) (later : List Char) :
    ∃ expression rest, EndsSubtrahend minuend subtrahend expression ∧
      (∀ c, rest.head? = some c → Separates c) ∧ line ++ later = expression ++ rest := by
  obtain ⟨expression, gap, endsExpression, _, rfl⟩ := ends
  refine ⟨expression, '=' :: '>' :: gap ++ later, endsExpression, ?_, List.append_assoc _ _ _⟩
  intro c following
  cases following
  exact Or.inr (Or.inr rfl)

theorem Describes.exists_expression {minuend subtrahend : Operand}
    (described : stage.Describes form text) (both : stage.operands = [minuend, subtrahend]) :
    ∃ expression rest, EndsSubtrahend minuend subtrahend expression ∧
      (∀ c, rest.head? = some c → Separates c) ∧ text = expression ++ rest := by
  cases stage with
  | beforeMinuend | inMinuend | afterMinuend | beforeSubtrahend | inSubtrahend =>
      simp [operands] at both
  | afterSubtrahend =>
      cases both
      exact ⟨text, [], described, by simp, (List.append_nil text).symm⟩
  | afterEquals =>
      cases both
      obtain ⟨_, expression, ends, rfl⟩ := described
      refine ⟨expression, ['='], ends, ?_, rfl⟩
      intro c following
      cases following
      exact Or.inr (Or.inr rfl)
  | beforeExpectation =>
      cases both
      obtain ⟨_, ends⟩ := described
      simpa using exists_expression_of_endsArrow ends []
  | afterO =>
      cases both
      obtain ⟨_, line, ends, rfl⟩ := described
      exact exists_expression_of_endsArrow ends _
  | inOverflow =>
      cases both
      obtain ⟨_, line, letters, ends, _, _, rfl⟩ := described
      exact exists_expression_of_endsArrow ends _
  | finished =>
      cases both
      obtain ⟨_, line, gap, ends, _, rfl⟩ := described
      rw [List.append_assoc]
      exact exists_expression_of_endsArrow ends _

theorem Describes.completedIn (described : stage.Describes form text)
    (member : operand ∈ stage.operands) : operand.CompletedIn text := by
  cases stage with
  | beforeMinuend | inMinuend => simp [operands] at member
  | afterMinuend minuend =>
      rw [List.mem_singleton.mp member, ← List.append_nil text]
      exact completedIn_of_endsOperand (fun _ blanks => Or.inl blanks) described (by simp)
  | beforeSubtrahend minuend =>
      rw [List.mem_singleton.mp member, ← List.append_nil text]
      exact completedIn_of_endsMinus described []
  | inSubtrahend minuend start literal =>
      obtain ⟨front, token, ends, _, _, rfl⟩ := described
      rw [List.mem_singleton.mp member]
      exact completedIn_of_endsMinus ends token
  | _ =>
      obtain ⟨expression, rest, ends, separated, rfl⟩ := described.exists_expression rfl
      exact completedIn_of_endsSubtrahend ends separated operand member

theorem stop_le_start {minuend subtrahend : Operand} {expression : List Char}
    (ends : EndsSubtrahend minuend subtrahend expression) :
    minuend.span.stop ≤ subtrahend.span.start := by
  obtain ⟨_, second, _, ⟨_, _, ⟨before, first, afterFirst, _, ⟨_, placedFirst⟩, _, rfl⟩, _, rfl⟩,
    ⟨_, placedSecond⟩, _, rfl⟩ := ends
  rw [placedFirst, placedSecond]
  simp only [byteCount_append]
  omega

theorem Describes.inOrder (described : stage.Describes form text) :
    stage.operands.Pairwise fun a b => a.span.stop ≤ b.span.start := by
  cases stage with
  | beforeMinuend | inMinuend => exact List.Pairwise.nil
  | afterMinuend | beforeSubtrahend | inSubtrahend => exact List.pairwise_singleton _ _
  | _ =>
      obtain ⟨expression, rest, ends, _, _⟩ := described.exists_expression rfl
      exact List.pairwise_pair.mpr (stop_le_start ends)

end Stage

/-! ## From operands to errors -/

namespace Operand

def error? (operand : Operand) : Option ReadError :=
  match operand.written.denote with
  | .ok _ => none
  | .error fault => some (.outOfRange operand.span fault)

theorem errors_eq (operand : Operand) : operand.errors = operand.error?.toList := by
  rw [errors, error?]
  cases operand.written.denote <;> rfl

end Operand

theorem Stage.errors_eq (stage : Stage) :
    stage.errors = stage.operands.filterMap Operand.error? := by
  have single : ∀ operand : Operand, operand.errors = [operand].filterMap Operand.error? := by
    intro operand
    rw [operand.errors_eq, List.filterMap_cons]
    cases operand.error? <;> rfl
  have pair : ∀ minuend subtrahend : Operand, minuend.errors ++ subtrahend.errors =
      [minuend, subtrahend].filterMap Operand.error? := by
    intro minuend subtrahend
    rw [single minuend, single subtrahend, ← List.filterMap_append]
    rfl
  cases stage with
  | beforeMinuend | inMinuend => rfl
  | afterMinuend | beforeSubtrahend | inSubtrahend => exact single _
  | _ => exact pair _ _

theorem WrittenLiteral.complaint?_eq (written : WrittenLiteral) :
    written.complaint? = match written.denote with
      | .ok _ => none
      | .error fault => some fault.message := by
  cases written with
  | decimal negative magnitude =>
      have least : leastWord = -9223372036854775808 := rfl
      have greatest : greatestWord = 9223372036854775807 := rfl
      simp only [complaint?, denote, denoteDecimal]
      split
      · rename_i large
        rw [if_neg (by omega), if_pos (by omega)]
        rfl
      · rename_i notLarge
        split
        · rename_i small
          rw [if_pos (by omega)]
          rfl
        · rename_i notSmall
          rw [if_neg (by omega), if_neg (by omega)]
  | pattern bits =>
      simp only [complaint?, denote]
      split
      · rename_i large
        rw [if_neg (by omega)]
        rfl
      · rename_i small
        rw [if_pos (by omega)]
  | min | max => rfl

theorem Operand.error?_eq (operand : Operand) :
    (operand.error?.map fun error => (error.span, error.message)) =
      operand.written.complaint?.map fun message => (operand.span, message) := by
  rw [error?, WrittenLiteral.complaint?_eq]
  cases operand.written.denote <;> rfl

theorem Operand.span_of_error? {operand : Operand} {error : ReadError}
    (found : operand.error? = some error) : error.span = operand.span := by
  unfold error? at found
  split at found
  · simp at found
  · cases found
    rfl

/-! ## The whole list -/

theorem Operand.CompletedIn.within {operand : Operand} {front text : List Char}
    (completed : operand.CompletedIn front) (isBeginning : front <+: text) :
    operand.span.Within text := by
  obtain ⟨before, token, after, _, ⟨_, placed⟩, rfl, _⟩ := completed
  obtain ⟨rest, rfl⟩ := isBeginning
  exact ⟨before, token, after ++ rest, by simp, placed⟩

theorem Operand.CompletedIn.stop_le {operand : Operand} {front : List Char}
    (completed : operand.CompletedIn front) : operand.span.stop ≤ byteCount front := by
  obtain ⟨before, token, after, _, ⟨_, placed⟩, rfl, _⟩ := completed
  rw [placed]
  simp only [byteCount_append]
  omega

namespace StoppedAfter

variable {form : Form} {text front : List Char} {reached : Reached}

theorem longestViable (stopped : StoppedAfter form text front reached) :
    form.LongestViable text front where
  isBeginning := ⟨_, stopped.text_eq.symm⟩
  viable := stopped.viable
  longest := by
    intro longer isBeginning viable
    rcases List.prefix_or_prefix_of_prefix isBeginning ⟨_, stopped.text_eq.symm⟩ with shorter | more
    · exact shorter
    · obtain ⟨rest, rfl⟩ := more
      cases rest with
      | nil => simp
      | cons c rest =>
          obtain ⟨later, whole⟩ := isBeginning
          have same := whole.trans stopped.text_eq
          rw [List.append_assoc, List.append_cancel_left_eq] at same
          rw [← List.singleton_append, ← List.append_assoc] at viable
          exact absurd (viable_of_append viable) (stopped.not_viable same.symm)

theorem mem_operands_iff_completed (stopped : StoppedAfter form text front reached)
    {operand : Operand} :
    operand ∈ reached.settled.operands ↔ operand.CompletedIn front := by
  constructor
  · exact stopped.describes_settled.completedIn
  · intro completed
    have member := Stage.mem_operands_of_completed stopped.after_eq completed
    rwa [← stopped.position_eq] at member

theorem exists_operand_of_mem_errors (stopped : StoppedAfter form text front reached)
    {error : ReadError} (member : error ∈ reached.settled.errors) :
    ∃ operand : Operand, operand.CompletedIn front ∧ error.span = operand.span := by
  rw [Stage.errors_eq, List.mem_filterMap] at member
  obtain ⟨operand, member, found⟩ := member
  exact ⟨operand, stopped.mem_operands_iff_completed.mp member, operand.span_of_error? found⟩

theorem span_within (stopped : StoppedAfter form text front reached) :
    reached.span.Within text := by
  cases rest : reached.rest with
  | nil =>
      refine ⟨front, [], [], ?_, ?_⟩
      · rw [List.append_nil, List.append_nil, stopped.text_eq, rest, List.append_nil]
      · rw [stopped.span_of_nil rest, List.append_nil]
  | cons c later =>
      refine ⟨front, [c], later, ?_, ?_⟩
      · rw [stopped.text_eq, rest, List.append_assoc, List.singleton_append]
      · exact stopped.span_of_cons rest

end StoppedAfter

/-- The errors of a text of which `front` was read: what is said of the completed operands that do
not fit, in text order, and a grammar error if the text lacks the form. -/
structure ErrorShape (form : Form) (text front : List Char) (completed : List Operand)
    (literals grammar : List ReadError) : Prop where
  front_longest : form.LongestViable text front
  completed_iff : ∀ operand, operand ∈ completed ↔ operand.CompletedIn front
  completed_inOrder : completed.Pairwise fun a b => a.span.stop ≤ b.span.start
  literals_eq : (literals.map fun error => (error.span, error.message)) =
    completed.filterMap fun operand =>
      operand.written.complaint?.map fun message => (operand.span, message)
  literals_kind : ∀ error ∈ literals, ∃ span fault, error = .outOfRange span fault
  literals_length : literals.length ≤ 2
  grammar_kind : ∀ error ∈ grammar, ∃ span found expected, error = .unexpected span found expected
  grammar_length : grammar.length ≤ 1
  grammar_iff : grammar ≠ [] ↔ ¬ form.Matches text
  within : ∀ error ∈ literals ++ grammar, error.span.Within text
  disjoint : (literals ++ grammar).Pairwise fun a b => a.span.stop ≤ b.span.start

theorem StoppedAfter.errorShape {form : Form} {text front : List Char} {reached : Reached}
    (stopped : StoppedAfter form text front reached) {grammar : List ReadError}
    (present : (form.Matches text ∧ grammar = []) ∨
      (¬ form.Matches text ∧ grammar = [reached.grammarError form])) :
    ErrorShape form text front reached.settled.operands reached.settled.errors grammar := by
  have atMostOne : grammar = [] ∨ grammar = [reached.grammarError form] :=
    present.imp And.right And.right
  have ofGrammar : ∀ error ∈ grammar, error = reached.grammarError form := by
    intro error member
    rcases atMostOne with rfl | rfl
    · simp at member
    · exact List.mem_singleton.mp member
  refine
    { front_longest := stopped.longestViable
      completed_iff := fun _ => stopped.mem_operands_iff_completed
      completed_inOrder := stopped.describes_settled.inOrder
      literals_eq := ?literals_eq
      literals_kind := fun _ => Stage.exists_fault_of_mem_errors
      literals_length := ?literals_length
      grammar_kind := fun error member => ⟨_, _, _, ofGrammar error member⟩
      grammar_length := ?grammar_length
      grammar_iff := ?grammar_iff
      within := ?within
      disjoint := ?disjoint }
  case literals_eq =>
    rw [Stage.errors_eq, List.map_filterMap]
    simp only [Operand.error?_eq]
  case literals_length =>
    rw [Stage.errors_eq]
    exact Nat.le_trans (List.length_filterMap_le _ _) reached.settled.length_operands_le
  case grammar_length => rcases atMostOne with rfl | rfl <;> simp
  case grammar_iff =>
    rcases present with ⟨isMatch, rfl⟩ | ⟨unmatched, rfl⟩
    · simp [isMatch]
    · simp [unmatched]
  case within =>
    intro error member
    rcases List.mem_append.mp member with early | last
    · obtain ⟨operand, completed, same⟩ := stopped.exists_operand_of_mem_errors early
      rw [same]
      exact completed.within ⟨_, stopped.text_eq.symm⟩
    · rw [ofGrammar error last]
      exact stopped.span_within
  case disjoint =>
    refine List.pairwise_append.mpr ⟨?_, ?_, ?_⟩
    · rw [Stage.errors_eq, List.pairwise_filterMap]
      refine stopped.describes_settled.inOrder.imp ?_
      intro a b apart error found other foundOther
      rw [a.span_of_error? found, b.span_of_error? foundOther]
      exact apart
    · rcases atMostOne with rfl | rfl
      · exact List.Pairwise.nil
      · exact List.pairwise_singleton _ _
    · intro error early last member
      obtain ⟨operand, completed, same⟩ := stopped.exists_operand_of_mem_errors early
      rw [ofGrammar last member, same]
      change operand.span.stop ≤ reached.span.start
      rw [Reached.start_span, stopped.position_eq]
      exact completed.stop_le

theorem read_errors_shape (form : Form) (text : String) (errors : List ReadError)
    (failed : read form text = .error errors) :
    errors ≠ [] ∧ ∃ front completed literals grammar,
      errors = literals ++ grammar ∧
        ErrorShape form text.toList front completed literals grammar := by
  obtain ⟨front, reached, stopped, verdict⟩ := exists_read_stopped form text
  rw [verdict] at failed
  rcases stopped.errors_cases failed with ⟨isMatch, rfl, nonempty⟩ | ⟨unmatched, rfl⟩
  · exact ⟨nonempty, front, _, _, [], (List.append_nil _).symm,
      stopped.errorShape (Or.inl ⟨isMatch, rfl⟩)⟩
  · exact ⟨by simp, front, _, _, _, rfl, stopped.errorShape (Or.inr ⟨unmatched, rfl⟩)⟩

/-- Both operands are too large and the expectation is followed by a letter. -/
theorem errors_shape_of_three_faults :
    read .caseLine "9223372036854775808 - 0x10000000000000000 => okay" =
        .error [.outOfRange ⟨0, 19⟩ .integerTooLarge, .outOfRange ⟨22, 41⟩ .hexTooLarge,
          .unexpected ⟨47, 48⟩ (some 'a') [.endOfInput]] ∧
      ∃ front completed literals grammar,
        [.outOfRange ⟨0, 19⟩ .integerTooLarge, .outOfRange ⟨22, 41⟩ .hexTooLarge,
          .unexpected ⟨47, 48⟩ (some 'a') [.endOfInput]] = literals ++ grammar ∧
        ErrorShape .caseLine "9223372036854775808 - 0x10000000000000000 => okay".toList front
          completed literals grammar := by
  have failed : read .caseLine "9223372036854775808 - 0x10000000000000000 => okay" =
      .error [.outOfRange ⟨0, 19⟩ .integerTooLarge, .outOfRange ⟨22, 41⟩ .hexTooLarge,
        .unexpected ⟨47, 48⟩ (some 'a') [.endOfInput]] := by
    rw [read_eq_verdict]
    rfl
  exact ⟨failed, (read_errors_shape .caseLine _ _ failed).2⟩

end SignedDifference
