import SignedDifference.Session.Input
import SignedDifference.Session.Response

/-!
# Transcripts

A whole session: a welcome, the response to every line that is not blank, and a closing line.  The
prompts are numbered from one, and the number goes up after each response that does not end the
session.  The closing line gives the number of the last prompt.
-/

set_option autoImplicit false

namespace SignedDifference.Session

def unreadable : Entry :=
  .failure
    [.plain ("Error reading input: Io(Error \x7b kind: InvalidData, " ++
      "message: \"stream did not contain valid UTF-8\" \x7d)")]

/-- What is printed from a prompt on, and the number of the last prompt. -/
def converse (source : WordSource) (prompt : Nat) : List (Option (List Char)) → List Entry × Nat
  | [] => ([], prompt)
  | none :: _ => ([unreadable], prompt)
  | some text :: later =>
      let line := Text.trim text
      if line.isEmpty then converse source prompt later
      else
        let response := respond source prompt (String.ofList line)
        if response.exits then (response.entries, prompt)
        else
          let (entries, last) := converse response.source (prompt + 1) later
          (response.entries ++ entries, last)

def transcript (source : WordSource) (input : List UInt8) : List Entry :=
  let (entries, last) := converse source 1 ((rawLines input).map RawLine.text?)
  welcome ++ entries ++ [closing last]

end SignedDifference.Session
