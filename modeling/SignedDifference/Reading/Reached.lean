import SignedDifference.Reading.Stage

/-!
# Reading stage by stage

A text is read as far as its form allows (`reach`).  If it goes on from there, or ends there too
early, that place is a grammar error; the errors of out-of-range operands stand before it.
-/

set_option autoImplicit false

namespace SignedDifference

structure Reached where
  position : Nat
  stage : Stage
  rest : List Char

namespace Reached

def settled (reached : Reached) : Stage :=
  reached.stage.settled reached.position

def span (reached : Reached) : Span :=
  .ofNext reached.position reached.rest

def grammarError (form : Form) (reached : Reached) : ReadError :=
  .unexpected reached.span reached.rest.head? (reached.stage.expected form)

def verdict (form : Form) (reached : Reached) : Except (List ReadError) form.Result :=
  match reached.rest, reached.settled.result? form with
  | [], some result => result
  | _, _ => .error (reached.settled.errors ++ [reached.grammarError form])

end Reached

/-- Reads as far as the form allows, from a stage at a byte position. -/
def reach (form : Form) : Nat → Stage → List Char → Reached
  | position, stage, [] => ⟨position, stage, []⟩
  | position, stage, c :: rest =>
      match stage.next? form position c with
      | some stage => reach form (position + c.utf8Size) stage rest
      | none => ⟨position, stage, c :: rest⟩

end SignedDifference
