import SignedDifference.Outcome

/-!
# Subtractors

A subtractor answers a pair of operands with an outcome, right or wrong, and may remember its calls.
Besides the three methods there are deliberately broken and scripted subtractors, for looking at
what a run does with them, and `counted`, which counts the calls of any subtractor.
-/

set_option autoImplicit false

namespace SignedDifference

/-- A subtractor with a memory of type `σ`, which each call may change. -/
abbrev Subtractor (σ : Type) : Type := Int64 → Int64 → σ → Outcome × σ

namespace Subtractor

variable {σ : Type}

def ofFunction (answer : Int64 → Int64 → Outcome) : Subtractor σ :=
  fun a b memory => (answer a b, memory)

def ofMethod (method : Method) : Subtractor σ :=
  ofFunction method.subtract

/-- The right wrapped word, always with the same flag. -/
def stuckFlag (flag : Bool) : Subtractor σ :=
  ofFunction fun a b => { Method.native.subtract a b with overflowed := flag }

/-- The right flag, always with the wrapped word zero. -/
def stuckZero : Subtractor σ :=
  ofFunction fun a b => { Method.native.subtract a b with wrapped := 0 }

/-- Gives the answers in its memory one after another, and right ones when they are used up. -/
def scripted : Subtractor (List Outcome) :=
  fun a b answers =>
    match answers with
    | [] => (Method.native.subtract a b, [])
    | answer :: rest => (answer, rest)

def counted (subtract : Subtractor σ) : Subtractor (σ × Nat) :=
  fun a b memory =>
    let (answer, after) := subtract a b memory.1
    (answer, (after, memory.2 + 1))

end Subtractor

end SignedDifference
