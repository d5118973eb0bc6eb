import SignedDifference.Reading
import SignedDifference.Session.Count
import SignedDifference.Session.Diagnostic
import SignedDifference.Session.Help
import SignedDifference.Session.Request
import SignedDifference.Session.SuiteReport

/-!
# Responses

The answer to one line of a session, which depends on the line, on the number of its prompt, and,
for generated cases, on the words of a source.
-/

set_option autoImplicit false

namespace SignedDifference.Session

structure Response where
  entries : List Entry
  source : WordSource
  /-- Whether the session ends here. -/
  exits : Bool

def diagnoseAll (prompt : Nat) (text : String) (errors : List ReadError) : List Entry :=
  errors.map (diagnose prompt text)

def evaluate (prompt : Nat) (text : String) : List Entry :=
  match parse text with
  | .ok s => [evaluationEntry prompt s]
  | .error errors => diagnoseAll prompt text errors

def explain (prompt : Nat) (text : String) : List Entry :=
  match parse text with
  | .ok s => evaluationEntry prompt s :: (Explanation.of s).entries
  | .error errors => diagnoseAll prompt text errors

def check (prompt : Nat) (text : String) : List Entry :=
  match parseCase text with
  | .ok line => runReport [line.toCase] .native
  | .error errors => diagnoseAll prompt text errors

def defaultCount : Nat := 1000

def fuzz (source : WordSource) (argument : String) : List Entry × WordSource :=
  let generate (count : Nat) : List Entry × WordSource :=
    let (cases, source) := Generator.drawCases count source
    (generatedReport cases, source)
  if argument = "" then generate defaultCount
  else
    match readCount argument.toList with
    | .ok count => generate count
    | .error error =>
        ([.failure
            [.plain "Invalid case count ", .red argument, .plain (": " ++ error.message)]],
         source)

def unknown (name : String) : List Entry :=
  [.failure [.plain "Unknown command: ", .red (":" ++ name)], helpHint]

def respond (source : WordSource) (prompt : Nat) (line : String) : Response :=
  match Request.ofLine line with
  | .evaluate text => ⟨evaluate prompt text, source, false⟩
  | .explain text =>
      if text = "" then
        ⟨[.failure [.plain "No expression provided to explain"]], source, false⟩
      else ⟨explain prompt text, source, false⟩
  | .suite => ⟨runReport Case.boundary .native, source, false⟩
  | .cases => ⟨caseList, source, false⟩
  | .check text =>
      if text = "" then ⟨[.failure [.plain "No case provided to check"]], source, false⟩
      else ⟨check prompt text, source, false⟩
  | .fuzz count => ⟨(fuzz source count).1, (fuzz source count).2, false⟩
  | .help => ⟨help, source, false⟩
  | .exit => ⟨[farewell], source, true⟩
  | .unknown name => ⟨unknown name, source, false⟩

end SignedDifference.Session
