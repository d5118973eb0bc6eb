import SignedDifference.Session.Transcript

/-!
# Conversations

A session processes the lines that it can read and that are not blank, up to the first that ends it,
and answers each by its text and the number of its prompt (`converse_eq`).  The closing line gives
the number of the last prompt.  That is the number of lines processed if one of them ended the
session, and one more than that otherwise (`closing_gives_last_prompt`).
-/

set_option autoImplicit false

namespace SignedDifference.Session

/-- The texts before the first line that cannot be read. -/
def readable : List (Option (List Char)) → List (List Char)
  | some text :: later => text :: readable later
  | _ => []

/-- The lines that are not blank, trimmed. -/
def entered (texts : List (List Char)) : List String :=
  ((texts.map Text.trim).filter fun line => !line.isEmpty).map String.ofList

/-- The lines up to the first that ends the session, with that one. -/
def throughExit : List String → List String
  | [] => []
  | line :: later => if Request.ofLine line = .exit then [line] else line :: throughExit later

def Exits (lines : List String) : Prop :=
  ∃ line ∈ lines, Request.ofLine line = .exit

instance (lines : List String) : Decidable (Exits lines) :=
  inferInstanceAs (Decidable (∃ line ∈ lines, _))

def processed (lines : List (Option (List Char))) : List String :=
  throughExit (entered (readable lines))

/-- What is printed after the answers if a line that cannot be read ended the session. -/
def complaint (lines : List (Option (List Char))) : List Entry :=
  if none ∈ lines ∧ ¬ Exits (processed lines) then [unreadable] else []

def sourcesFrom (source : WordSource) (sources : Nat → WordSource) : Nat → WordSource
  | 0 => source
  | index + 1 => sources index

/-- The answers to lines at consecutive prompts, each with the words of its own source. -/
def answers (sources : Nat → WordSource) (prompt : Nat) (lines : List String) : List Entry :=
  (lines.mapIdx fun index line => (respond (sources index) (prompt + index) line).entries).flatten

/-- The prompt of the line that ended the session, or the one behind all lines. -/
def lastPrompt (prompt : Nat) (lines : List String) : Nat :=
  if Exits lines then prompt + lines.length - 1 else prompt + lines.length

/-! ## Lines processed -/

variable {text : List Char} {line : String} {later : List (Option (List Char))}
  {lines : List String} {source : WordSource} {prompt : Nat}

theorem exits_cons : Exits (line :: lines) ↔ Request.ofLine line = .exit ∨ Exits lines := by
  simp [Exits]

theorem processed_blank (blank : Text.trim text = []) :
    processed (some text :: later) = processed later := by
  simp [processed, readable, entered, blank]

theorem processed_exit (content : Text.trim text ≠ [])
    (exits : Request.ofLine (String.ofList (Text.trim text)) = .exit) :
    processed (some text :: later) = [String.ofList (Text.trim text)] := by
  simp [processed, readable, entered, content, throughExit, exits]

theorem processed_line (content : Text.trim text ≠ [])
    (stays : Request.ofLine (String.ofList (Text.trim text)) ≠ .exit) :
    processed (some text :: later) = String.ofList (Text.trim text) :: processed later := by
  simp [processed, readable, entered, content, throughExit, stays]

theorem complaint_blank (blank : Text.trim text = []) :
    complaint (some text :: later) = complaint later := by
  simp [complaint, processed_blank blank]

theorem complaint_exit (content : Text.trim text ≠ [])
    (exits : Request.ofLine (String.ofList (Text.trim text)) = .exit) :
    complaint (some text :: later) = [] := by
  simp [complaint, processed_exit content exits, exits_cons, exits]

theorem complaint_line (content : Text.trim text ≠ [])
    (stays : Request.ofLine (String.ofList (Text.trim text)) ≠ .exit) :
    complaint (some text :: later) = complaint later := by
  simp [complaint, processed_line content stays, exits_cons, stays]

/-! ## The conversation -/

theorem answers_cons (sources : Nat → WordSource) :
    answers (sourcesFrom source sources) prompt (line :: lines) =
      (respond source prompt line).entries ++ answers sources (prompt + 1) lines := by
  simp only [answers, List.mapIdx_cons, List.flatten_cons, Nat.add_zero]
  congr 3
  funext index line
  rw [Nat.add_right_comm, Nat.add_assoc]
  rfl

theorem exits_respond (source : WordSource) (prompt : Nat) (line : String) :
    (respond source prompt line).exits = decide (Request.ofLine line = .exit) := by
  rw [respond]
  cases Request.ofLine line with
  | explain text => simp only; split <;> rfl
  | check text => simp only; split <;> rfl
  | _ => rfl

theorem converse_blank (blank : Text.trim text = []) :
    converse source prompt (some text :: later) = converse source prompt later := by
  simp [converse, blank]

theorem converse_exit (content : Text.trim text ≠ [])
    (exits : Request.ofLine (String.ofList (Text.trim text)) = .exit) :
    converse source prompt (some text :: later) =
      ((respond source prompt (String.ofList (Text.trim text))).entries, prompt) := by
  simp [converse, content, exits_respond, exits]

theorem converse_line (content : Text.trim text ≠ [])
    (stays : Request.ofLine (String.ofList (Text.trim text)) ≠ .exit) :
    converse source prompt (some text :: later) =
      let response := respond source prompt (String.ofList (Text.trim text))
      (response.entries ++ (converse response.source (prompt + 1) later).1,
        (converse response.source (prompt + 1) later).2) := by
  simp [converse, content, exits_respond, stays]

theorem lastPrompt_exit (exits : Request.ofLine line = .exit) :
    lastPrompt prompt [line] = prompt := by
  rw [lastPrompt, if_pos (exits_cons.mpr (Or.inl exits))]
  rfl

theorem lastPrompt_line (stays : Request.ofLine line ≠ .exit) :
    lastPrompt prompt (line :: lines) = lastPrompt (prompt + 1) lines := by
  simp only [lastPrompt, exits_cons, stays, false_or, List.length_cons]
  split <;> omega

theorem lastPrompt_one (lines : List String) :
    lastPrompt 1 lines = if Exits lines then lines.length else lines.length + 1 := by
  rw [lastPrompt, Nat.add_sub_cancel_left, Nat.add_comm]

/-- The entries are the answers to the lines processed, and a complaint if a line that cannot be
read comes before the end. -/
theorem converse_eq (lines : List (Option (List Char))) :
    ∀ source prompt, ∃ sources, converse source prompt lines =
      (answers sources prompt (processed lines) ++ complaint lines,
        lastPrompt prompt (processed lines)) := by
  -- The source and the prompt vary, since an answered line advances both.
  induction lines with
  | nil =>
      intro source prompt
      exact ⟨fun _ => source, rfl⟩
  | cons first later ih =>
      intro source prompt
      cases first with
      | none => exact ⟨fun _ => source, rfl⟩
      | some text =>
          by_cases blank : Text.trim text = []
          · obtain ⟨sources, same⟩ := ih source prompt
            rw [converse_blank blank, processed_blank blank, complaint_blank blank]
            exact ⟨sources, same⟩
          · by_cases exits : Request.ofLine (String.ofList (Text.trim text)) = .exit
            · rw [converse_exit blank exits, processed_exit blank exits, complaint_exit blank exits,
                lastPrompt_exit exits]
              exact ⟨fun _ => source, by simp [answers]⟩
            · obtain ⟨sources, same⟩ := ih
                (respond source prompt (String.ofList (Text.trim text))).source (prompt + 1)
              rw [converse_line blank exits, processed_line blank exits, complaint_line blank exits,
                lastPrompt_line exits]
              refine ⟨sourcesFrom source sources, ?_⟩
              simp only [same, answers_cons, List.append_assoc]

/-- A session prints the answers to the lines processed, and closes with their number if one of them
ended it.  Otherwise it closes with one more, the number of the prompt that got no line. -/
theorem closing_gives_last_prompt (source : WordSource) (input : List UInt8) :
    ∃ sources lines, lines = processed ((rawLines input).map RawLine.text?) ∧
      transcript source input =
        welcome ++ answers sources 1 lines ++ complaint ((rawLines input).map RawLine.text?) ++
          [closing (if Exits lines then lines.length else lines.length + 1)] := by
  obtain ⟨sources, same⟩ := converse_eq ((rawLines input).map RawLine.text?) source 1
  refine ⟨sources, _, rfl, ?_⟩
  simp only [transcript, same, lastPrompt_one, List.append_assoc]

/-- No line is processed, and the closing line counts one. -/
theorem closing_of_no_lines :
    transcript (.cyclic []) [] = welcome ++ [closing 1] ∧
      processed ((rawLines []).map RawLine.text?) = [] :=
  ⟨rfl, rfl⟩

end SignedDifference.Session
