import Mathlib.Data.List.Induction
import SignedDifference.Reading.Reached
import SignedDifference.Text.ByteCount

/-!
# Runs of the reader

`Stage.after?` is the stage that a whole text leads to, if the reader takes all of its characters.
Reading stops at the end of the longest beginning that has such a stage (`exists_stopped`).
-/

set_option autoImplicit false

namespace SignedDifference

open Text (byteCount byteCount_append)

namespace Stage

def run (form : Form) : Nat → Stage → List Char → Option Stage
  | _, stage, [] => some stage
  | position, stage, c :: rest =>
      match stage.next? form position c with
      | some next => run form (position + c.utf8Size) next rest
      | none => none

def after? (form : Form) (text : List Char) : Option Stage :=
  run form 0 .beforeMinuend text

theorem run_append (form : Form) :
    ∀ (front back : List Char) (position : Nat) (stage : Stage),
      run form position stage (front ++ back) =
        (run form position stage front).bind fun middle =>
          run form (position + byteCount front) middle back := by
  intro front back
  induction front with
  | nil => intro position stage; rfl
  | cons c rest ih =>
      intro position stage
      simp only [List.cons_append, run, byteCount]
      cases stage.next? form position c with
      | none => rfl
      | some next => simp only [ih, Nat.add_assoc]

theorem after?_concat (form : Form) (front : List Char) (c : Char) :
    after? form (front ++ [c]) =
      (after? form front).bind fun stage => stage.next? form (byteCount front) c := by
  rw [after?, run_append, after?, Nat.zero_add]
  congr 1
  funext stage
  simp only [run]
  cases stage.next? form (byteCount front) c <;> rfl

theorem exists_after?_of_append {form : Form} {front back : List Char} {final : Stage}
    (reached : after? form (front ++ back) = some final) :
    ∃ stage, after? form front = some stage := by
  rw [after?, run_append, Option.bind_eq_some_iff] at reached
  obtain ⟨stage, reachedFront, _⟩ := reached
  exact ⟨stage, reachedFront⟩

end Stage

theorem Stage.settled_eq {stage next : Stage} {position : Nat}
    (ended : stage.settle? position = some next) : stage.settled position = next := by
  rw [settled, ended, Option.getD_some]

theorem Stage.settled_eq_self {stage : Stage} {position : Nat}
    (underWay : stage.settle? position = none) : stage.settled position = stage := by
  rw [settled, underWay, Option.getD_none]

theorem reach_append (form : Form) (back : List Char) :
    ∀ {front : List Char} {position : Nat} {stage final : Stage},
      Stage.run form position stage front = some final →
        reach form position stage (front ++ back) =
          reach form (position + byteCount front) final back := by
  intro front
  induction front with
  | nil =>
      intro position stage final ran
      cases ran
      rfl
  | cons c front ih =>
      intro position stage final ran
      simp only [Stage.run] at ran
      cases taken : stage.next? form position c with
      | none => simp [taken] at ran
      | some next =>
          simp only [taken] at ran
          rw [List.cons_append, reach]
          simp only [taken]
          rw [ih ran, byteCount, Nat.add_assoc]

theorem reach_of_refused {form : Form} {position : Nat} {stage : Stage} {c : Char}
    (refused : stage.next? form position c = none) (later : List Char) :
    reach form position stage (c :: later) = ⟨position, stage, c :: later⟩ := by
  rw [reach]
  simp only [refused]

/-- Reading the text stopped after `front`: at its end, or before a character that is refused. -/
structure StoppedAfter (form : Form) (text front : List Char) (reached : Reached) : Prop where
  text_eq : text = front ++ reached.rest
  position_eq : reached.position = byteCount front
  after_eq : Stage.after? form front = some reached.stage
  refused : ∀ c later, reached.rest = c :: later →
    reached.stage.next? form reached.position c = none

theorem exists_stopped_from (form : Form) :
    ∀ (text front : List Char) (position : Nat) (stage : Stage),
      position = byteCount front → Stage.after? form front = some stage →
        ∃ more, StoppedAfter form (front ++ text) (front ++ more)
          (reach form position stage text) := by
  intro text
  induction text with
  | nil =>
      intro front position stage placed reached
      exact ⟨[], by simp [reach], by simp [reach, placed], by simpa [reach] using reached,
        by simp [reach]⟩
  | cons c rest ih =>
      intro front position stage placed reached
      simp only [reach]
      cases taken : stage.next? form position c with
      | none =>
          refine ⟨[], by simp, by simp [placed], by simpa using reached, ?_⟩
          intro d later same
          cases same
          exact taken
      | some next =>
          have placedNext : position + c.utf8Size = byteCount (front ++ [c]) := by
            simp only [byteCount_append, byteCount, placed, Nat.add_zero]
          have reachedNext : Stage.after? form (front ++ [c]) = some next := by
            rw [Stage.after?_concat, reached, Option.bind_some, ← placed, taken]
          obtain ⟨more, stopped⟩ := ih (front ++ [c]) _ next placedNext reachedNext
          simp only [List.append_assoc, List.singleton_append] at stopped
          exact ⟨c :: more, stopped⟩

theorem exists_stopped (form : Form) (text : List Char) :
    ∃ front, StoppedAfter form text front (reach form 0 .beforeMinuend text) :=
  exists_stopped_from form text [] 0 .beforeMinuend rfl rfl

theorem StoppedAfter.after?_eq_none {form : Form} {text front later : List Char} {c : Char}
    {reached : Reached} (stopped : StoppedAfter form text front reached)
    (rest : reached.rest = c :: later) : Stage.after? form (front ++ [c]) = none := by
  rw [Stage.after?_concat, stopped.after_eq, Option.bind_some, ← stopped.position_eq]
  exact stopped.refused c later rest

end SignedDifference
