import SignedDifference.Proofs.Reading.ErrorList
import SignedDifference.Session.Response

/-!
# Where diagnostics point

A diagnostic reads the ends of a byte span as character positions.  So its location stands for the
byte offset of the error (`index_of_drawn`), which is the number of characters before the error
exactly if all of them are ASCII.  If the characters of the error are ASCII as well, the diagnostic
is drawn with its label (`diagnostics_point_behind_ascii`).
-/

set_option autoImplicit false

namespace SignedDifference

open Text (byteCount byteCount_append byteCount_eq_length_iff length_le_byteCount)

/-- The error spans `found`, which stands in the text between `before` and `after`.  Only at the end
of the text may it span nothing. -/
structure ReadError.Spans (error : ReadError) (text before found after : List Char) : Prop where
  text_eq : text = before ++ found ++ after
  span_eq : error.span = ⟨byteCount before, byteCount (before ++ found)⟩
  after_eq_nil : found = [] → after = []

namespace StoppedAfter

variable {form : Form} {text front : List Char} {reached : Reached}

theorem spans_grammarError (stopped : StoppedAfter form text front reached) :
    ∃ found after, (reached.grammarError form).Spans text front found after := by
  cases rest : reached.rest with
  | nil =>
      refine ⟨[], [], ?_, ?_, fun _ => rfl⟩
      · rw [stopped.text_eq, rest, List.append_nil, List.append_nil]
      · rw [List.append_nil]
        exact stopped.span_of_nil rest
  | cons c later =>
      refine ⟨[c], later, ?_, ?_, by simp⟩
      · rw [stopped.text_eq, rest, List.append_assoc, List.singleton_append]
      · exact stopped.span_of_cons rest

theorem spans_of_mem_errors (stopped : StoppedAfter form text front reached) {error : ReadError}
    (member : error ∈ reached.settled.errors) :
    ∃ before found after, error.Spans text before found after := by
  obtain ⟨operand, completed, same⟩ := stopped.exists_operand_of_mem_errors member
  obtain ⟨before, token, later, _, ⟨spelled, placed⟩, frontIs, _⟩ := completed
  have stands : (PartialLiteral.whole operand.written).StandsFor token := spelled
  refine ⟨before, token, later ++ reached.rest, ?_, by rw [same, placed], ?_⟩
  · rw [stopped.text_eq, frontIs, List.append_assoc _ later]
  · intro empty
    exact absurd empty stands.nonempty

end StoppedAfter

theorem exists_spans {form : Form} {text : String} {errors : List ReadError}
    (failed : read form text = .error errors) {error : ReadError} (member : error ∈ errors) :
    ∃ before found after, error.Spans text.toList before found after := by
  obtain ⟨front, reached, stopped, verdict⟩ := exists_read_stopped form text
  rw [verdict] at failed
  rcases stopped.errors_cases failed with ⟨_, rfl, _⟩ | ⟨_, rfl⟩
  · exact stopped.spans_of_mem_errors member
  · rcases List.mem_append.mp member with early | last
    · exact stopped.spans_of_mem_errors early
    · rw [List.mem_singleton.mp last]
      obtain ⟨found, after, spans⟩ := stopped.spans_grammarError
      exact ⟨front, found, after, spans⟩

namespace Session

/-- The form in which a request has a text read, and the text. -/
def Request.reading? : Request → Option (Form × String)
  | .evaluate text => some (.expression, text)
  | .explain text => if text = "" then none else some (.expression, text)
  | .check text => if text = "" then none else some (.caseLine, text)
  | _ => none

/-- The position of the character at the location, in a text that was entered at the prompt. -/
def Location.index (prompt : Nat) (text : List Char) (location : Location) : Nat :=
  ((Text.splitLines text).take (location.line - prompt)).flatten.length + (location.column - 1)

/-- The entry tells of the error, at the location of the character at the position. -/
def Designates (prompt : Nat) (text : List Char) (error : ReadError) (position : Nat)
    (entry : Entry) : Prop :=
  ∃ location, entry = .diagnostic (some location) (some error.message) ∧
    prompt ≤ location.line ∧ 1 ≤ location.column ∧ location.index prompt text = position

theorem respond_of_failed_reading {source : WordSource} {prompt : Nat} {line : String} {form : Form}
    {text : String} {errors : List ReadError}
    (handed : (Request.ofLine line).reading? = some (form, text))
    (failed : read form text = .error errors) :
    (respond source prompt line).entries = errors.map (diagnose prompt text) := by
  rw [respond]
  cases asked : Request.ofLine line with
  | evaluate text =>
      rw [asked] at handed
      cases handed
      simp only [evaluate, parse, failed, diagnoseAll]
  | explain text =>
      rw [asked, Request.reading?] at handed
      split at handed
      · simp at handed
      · rename_i given
        cases handed
        simp only [if_neg given, explain, parse, failed, diagnoseAll]
  | check text =>
      rw [asked, Request.reading?] at handed
      split at handed
      · simp at handed
      · rename_i given
        cases handed
        simp only [if_neg given, check, parseCase, failed, diagnoseAll]
  | _ => simp [asked, Request.reading?] at handed

def locationAt (prompt : Nat) (text : List Char) (position : Nat) : Location :=
  let line := Text.lineAt position 1 0 (Text.splitLines text)
  ⟨line.number + (prompt - 1), position - line.start + 1⟩

theorem index_locationAt {prompt : Nat} (positive : 1 ≤ prompt) (text : List Char)
    (position : Nat) :
    prompt ≤ (locationAt prompt text position).line ∧
      1 ≤ (locationAt prompt text position).column ∧
      (locationAt prompt text position).index prompt text = position := by
  obtain ⟨less, placed, within⟩ :=
    Text.lineAt_spec (Text.splitLines text) 1 0 (Nat.zero_le position)
  rw [locationAt, Location.index]
  generalize Text.lineAt position 1 0 (Text.splitLines text) = line at less placed within
  obtain ⟨number, start⟩ := line
  simp only at less placed within ⊢
  have offset : number + (prompt - 1) - prompt = number - 1 := by omega
  rw [offset]
  omega

variable {prompt : Nat} {text : String} {error : ReadError}

theorem diagnose_of_drawable
    (drawn : drawable text.toList.length error.span = true) :
    diagnose prompt text error =
      .diagnostic (some (locationAt prompt text.toList error.span.start))
        (if labelled text.toList (Text.splitLines text.toList) error.span then some error.message
          else none) := by
  simp only [diagnose, drawn, if_true]
  rfl

theorem diagnose_of_not_drawable
    (undrawn : ¬ drawable text.toList.length error.span = true) :
    diagnose prompt text error = .diagnostic none none := by
  simp only [diagnose, undrawn]
  rfl

/-- What the location of a diagnostic stands for is the byte offset of the error. -/
theorem index_of_drawn (positive : 1 ≤ prompt) {location : Location} {label : Option String}
    (drawn : diagnose prompt text error = .diagnostic (some location) label) :
    prompt ≤ location.line ∧ 1 ≤ location.column ∧
      location.index prompt text.toList = error.span.start := by
  by_cases inText : drawable text.toList.length error.span = true
  · rw [diagnose_of_drawable inText] at drawn
    cases drawn
    exact index_locationAt positive text.toList error.span.start
  · rw [diagnose_of_not_drawable inText] at drawn
    simp at drawn

theorem labelled_of_designates {position : Nat}
    (designates : Designates prompt text.toList error position (diagnose prompt text error)) :
    labelled text.toList (Text.splitLines text.toList) error.span = true := by
  obtain ⟨location, drawn, _⟩ := designates
  by_cases inText : drawable text.toList.length error.span = true
  · rw [diagnose_of_drawable inText] at drawn
    by_contra hangs
    simp [hangs] at drawn
  · rw [diagnose_of_not_drawable inText] at drawn
    simp at drawn

theorem drawable_of_labelled {chars : List Char} {lines : List (List Char)} {span : Span}
    (ordered : span.start ≤ span.stop) (hangs : labelled chars lines span = true) :
    drawable chars.length span = true := by
  simp only [labelled, Bool.and_eq_true, decide_eq_true_eq] at hangs
  simp only [drawable, Bool.and_eq_true, Bool.or_eq_true, decide_eq_true_eq]
  omega

theorem designates_iff (positive : 1 ≤ prompt) (ordered : error.span.start ≤ error.span.stop)
    {position : Nat} :
    Designates prompt text.toList error position (diagnose prompt text error) ↔
      error.span.start = position ∧
        labelled text.toList (Text.splitLines text.toList) error.span = true := by
  constructor
  · intro designates
    have hangs := labelled_of_designates designates
    obtain ⟨location, drawn, _, _, index⟩ := designates
    exact ⟨(index_of_drawn positive drawn).2.2.symm.trans index, hangs⟩
  · intro given
    obtain ⟨rfl, hangs⟩ := given
    refine ⟨_, ?_, index_locationAt positive text.toList error.span.start⟩
    rw [diagnose_of_drawable (drawable_of_labelled ordered hangs), if_pos hangs]

theorem mem_of_middle {chars before found after : List Char} {c : Char}
    (spans : error.Spans chars before found after)
    (middle : chars[(before.length + (before ++ found).length) / 2]? = some c) :
    c ∈ before ++ found := by
  have within : (before.length + (before ++ found).length) / 2 < (before ++ found).length := by
    cases found with
    | nil =>
        have whole := spans.text_eq
        rw [spans.after_eq_nil rfl, List.append_nil, List.append_nil] at whole
        rw [whole, List.append_nil, List.getElem?_eq_none (by omega)] at middle
        simp at middle
    | cons d rest =>
        simp only [List.length_append, List.length_cons]
        omega
  rw [spans.text_eq, List.getElem?_append_left within] at middle
  exact List.mem_of_getElem? middle

theorem labelled_of_ascii {chars before found after : List Char}
    (spans : error.Spans chars before found after) (ascii : ∀ c ∈ before ++ found, c.toNat < 0x80) :
    labelled chars (Text.splitLines chars) error.span = true := by
  have start : byteCount before = before.length :=
    byteCount_eq_length_iff.mpr fun c member => ascii c (List.mem_append_left _ member)
  have stop : byteCount (before ++ found) = (before ++ found).length :=
    byteCount_eq_length_iff.mpr ascii
  have inText : (before ++ found).length ≤ chars.length := by
    simp only [spans.text_eq, List.length_append]
    omega
  have wide : chars[(before.length + (before ++ found).length) / 2]?.any Text.hasNoWidth =
      false := by
    cases middle : chars[(before.length + (before ++ found).length) / 2]? with
    | none => rfl
    | some c => exact Text.hasNoWidth_of_ascii c (ascii c (mem_of_middle spans middle))
  simp only [labelled, spans.span_eq, start, stop, wide, inText, decide_true, Bool.not_false,
    Bool.or_true, Bool.and_true]

/-- Every error that a line's text is refused with has a diagnostic.  The diagnostic tells of the
error at its first character exactly if only ASCII stands before the error and the label finds a
place; if the error is ASCII as well, it does.  In any case what is drawn stands for the byte offset
of the error. -/
theorem diagnostics_point_behind_ascii (source : WordSource) (prompt : Nat) (positive : 1 ≤ prompt)
    (line : String) (form : Form) (text : String)
    (handed : (Request.ofLine line).reading? = some (form, text)) (errors : List ReadError)
    (failed : read form text = .error errors) :
    (respond source prompt line).entries = errors.map (diagnose prompt text) ∧
      ∀ error ∈ errors, ∃ before found after, error.Spans text.toList before found after ∧
        (Designates prompt text.toList error before.length (diagnose prompt text error) ↔
          (∀ c ∈ before, c.toNat < 0x80) ∧
            labelled text.toList (Text.splitLines text.toList) error.span = true) ∧
        ((∀ c ∈ before ++ found, c.toNat < 0x80) →
          Designates prompt text.toList error before.length (diagnose prompt text error)) ∧
        ∀ location label, diagnose prompt text error = .diagnostic (some location) label →
          location.index prompt text.toList = byteCount before := by
  refine ⟨respond_of_failed_reading handed failed, ?_⟩
  intro error member
  obtain ⟨before, found, after, spans⟩ := exists_spans failed member
  have start : error.span.start = byteCount before := by rw [spans.span_eq]
  have ordered : error.span.start ≤ error.span.stop := by
    rw [spans.span_eq, byteCount_append]
    exact Nat.le_add_right _ _
  have designates : Designates prompt text.toList error before.length (diagnose prompt text error) ↔
      (∀ c ∈ before, c.toNat < 0x80) ∧
        labelled text.toList (Text.splitLines text.toList) error.span = true := by
    rw [designates_iff positive ordered, start, byteCount_eq_length_iff]
  refine ⟨before, found, after, spans, designates, ?_, ?_⟩
  · intro ascii
    exact designates.mpr
      ⟨fun c inFront => ascii c (List.mem_append_left _ inFront), labelled_of_ascii spans ascii⟩
  · intro location label drawn
    rw [(index_of_drawn positive drawn).2.2, start]

/-- The blank after the first operand takes two bytes, so the location is one column too far to the
right, and there is no label. -/
theorem location_behind_wide_blank :
    (Request.ofLine "1\u00a0- x").reading? = some (.expression, "1\u00a0- x") ∧
      read .expression "1\u00a0- x" = .error [.unexpected ⟨5, 6⟩ (some 'x') [.operand]] ∧
      (ReadError.unexpected ⟨5, 6⟩ (some 'x') [.operand]).Spans "1\u00a0- x".toList
        ['1', '\u00a0', '-', ' '] ['x'] [] ∧
      diagnose 1 "1\u00a0- x" (.unexpected ⟨5, 6⟩ (some 'x') [.operand]) =
        .diagnostic (some ⟨1, 6⟩) none ∧
      ¬ Designates 1 "1\u00a0- x".toList (.unexpected ⟨5, 6⟩ (some 'x') [.operand]) 4
        (diagnose 1 "1\u00a0- x" (.unexpected ⟨5, 6⟩ (some 'x') [.operand])) := by
  have failed : read .expression "1\u00a0- x" =
      .error [.unexpected ⟨5, 6⟩ (some 'x') [.operand]] := by
    rw [read_eq_verdict]
    rfl
  have drawn : diagnose 1 "1\u00a0- x" (.unexpected ⟨5, 6⟩ (some 'x') [.operand]) =
      .diagnostic (some ⟨1, 6⟩) none := by rfl
  refine ⟨by cbv, failed, ⟨by rfl, by rfl, by simp⟩, drawn, ?_⟩
  rw [drawn]
  intro designates
  obtain ⟨location, same, _⟩ := designates
  simp at same

/-- The case stands at the third prompt, and its subtrahend starts at its fifth character. -/
theorem location_of_case_operand :
    (Request.ofLine ":check 1 - x").reading? = some (.caseLine, "1 - x") ∧
      read .caseLine "1 - x" = .error [.unexpected ⟨4, 5⟩ (some 'x') [.operand]] ∧
      (respond (.cyclic []) 3 ":check 1 - x").entries =
        [.diagnostic (some ⟨3, 5⟩) (some "found 'x' expected operand")] ∧
      Designates 3 "1 - x".toList (.unexpected ⟨4, 5⟩ (some 'x') [.operand]) 4
        (diagnose 3 "1 - x" (.unexpected ⟨4, 5⟩ (some 'x') [.operand])) := by
  have handed : (Request.ofLine ":check 1 - x").reading? = some (.caseLine, "1 - x") := by cbv
  have failed : read .caseLine "1 - x" = .error [.unexpected ⟨4, 5⟩ (some 'x') [.operand]] := by
    rw [read_eq_verdict]
    rfl
  obtain ⟨answered, designated⟩ := diagnostics_point_behind_ascii (.cyclic []) 3 (by decide)
    ":check 1 - x" .caseLine "1 - x" handed _ failed
  obtain ⟨before, found, after, spans, _, points, _⟩ := designated _ (List.mem_singleton.mpr rfl)
  have ascii : ∀ c ∈ before ++ found, c.toNat < 0x80 := by
    have whole : ∀ c ∈ "1 - x".toList, c.toNat < 0x80 := by simp
    intro c member
    apply whole c
    rw [spans.text_eq]
    exact List.mem_append_left after member
  have four : before.length = 4 := by
    rw [← byteCount_eq_length_iff.mpr fun c member => ascii c (List.mem_append_left found member)]
    exact (congrArg Span.start spans.span_eq).symm
  refine ⟨handed, failed, answered, ?_⟩
  have pointed := points ascii
  rwa [four] at pointed

end Session

end SignedDifference
