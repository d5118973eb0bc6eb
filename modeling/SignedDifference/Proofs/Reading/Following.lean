import SignedDifference.Proofs.Reading.Parts
import SignedDifference.Proofs.Reading.Progress
import SignedDifference.Reading.Syntax

/-!
# Parsers that follow the stages

Between the tokens the scan of a parser stands where the reader does that goes from stage to stage,
and has noted what the reader expects there beyond the next token (`Follows`).  A parser that fails
has the last error of the reader for its furthest refusal (`Agrees`).
-/

set_option autoImplicit false

namespace SignedDifference

open Text (byteCount isBlank)

variable {α β : Type} {form : Form}

namespace Stage

theorem nodup_continuations (form : Form) {literal : PartialLiteral} {following : Continuation}
    (separate : following = .symbol '-' ∨ following = afterExpression form) :
    (literal.continuations ++ if literal.complete?.isSome then [following] else []).Nodup := by
  have entries : following = .symbol '-' ∨ following = .endOfInput ∨ following = .symbol '=' := by
    cases form with
    | expression => exact separate.imp_right Or.inl
    | caseLine => exact separate.imp_right Or.inr
  cases literal with
  | whole written =>
      cases written with
      | decimal negative magnitude =>
          simp only [PartialLiteral.continuations, PartialLiteral.complete?]
          by_cases zero : magnitude = 0
          · cases negative <;> rcases entries with rfl | rfl | rfl <;> simp [zero]
          · rcases entries with rfl | rfl | rfl <;> simp [zero]
      | _ =>
          rcases entries with rfl | rfl | rfl <;>
            simp [PartialLiteral.continuations, PartialLiteral.complete?]
  | _ => simp [PartialLiteral.continuations, PartialLiteral.complete?]

theorem nodup_expected (form : Form) (stage : Stage) : (stage.expected form).Nodup := by
  cases stage with
  | inMinuend start literal => exact nodup_continuations form (Or.inl rfl)
  | inSubtrahend minuend start literal => exact nodup_continuations form (Or.inr rfl)
  | _ => simp [expected]

theorem extend?_of_settled {stage : Stage}
    (settled : ∀ position, stage.settle? position = some stage) (c : Char) :
    stage.extend? c = none := by
  cases stage with
  | inMinuend start literal =>
      obtain ⟨_, _, same⟩ := Option.map_eq_some_iff.mp (settled 0)
      cases same
  | inSubtrahend minuend start literal =>
      obtain ⟨_, _, same⟩ := Option.map_eq_some_iff.mp (settled 0)
      cases same
  | _ => rfl

end Stage

/-- Where the reader stops before the form is complete, its last error is the refusal there. -/
theorem verdict_of_stop {position : Nat} {raw : Stage} {rest : List Char}
    (refused : ∀ c, rest.head? = some c → raw.next? form position c = none)
    (incomplete : rest = [] → (raw.settled position).result? form = none) :
    (reach form position raw rest).verdict form =
      .error ((raw.settled position).errors ++
        [(Refusal.before position rest (raw.expected form)).error]) := by
  cases rest with
  | nil =>
      simp only [reach, Reached.verdict, Reached.settled, incomplete rfl]
      rfl
  | cons c later =>
      rw [reach_of_refused (refused c rfl)]
      rfl

theorem verdict_of_run {position : Nat} {before raw : Stage} {front rest : List Char}
    (ran : Stage.run form position before front = some raw)
    (refused : ∀ c, rest.head? = some c →
      raw.next? form (position + byteCount front) c = none)
    (incomplete : (raw.settled (position + byteCount front)).result? form = none) :
    (reach form position before (front ++ rest)).verdict form =
      .error ((raw.settled (position + byteCount front)).errors ++
        [(Refusal.before (position + byteCount front) rest (raw.expected form)).error]) := by
  rw [reach_append form rest ran]
  exact verdict_of_stop refused fun _ => incomplete

/-- The reader, which will come to `final`, is at the place of the scan in the stage `raw`, and in
`stage` once a literal under way has ended.  It has met the same faults, and the scan has noted what
the reader expects besides the next token. -/
structure Follows (form : Form) (final : Reached) (scan : Scan) (raw stage : Stage)
    (noted : List Continuation) : Prop where
  reaches : reach form scan.position raw scan.rest = final
  settles : raw.settle? scan.position = some stage
  ended : ∀ c, scan.rest.head? = some c → raw.extend? c = none
  expected_eq : raw.expected form = noted ++ stage.expected form
  noted : scan.Noted noted
  faults_eq : scan.faults = stage.errors

/-- A parser that failed has the verdict of the reader, and else what follows is as stated. -/
def Agrees (form : Form) (final : Reached) (goesOn : α → Scan → Prop) : Option α × Scan → Prop
  | (some a, after) => goesOn a after
  | (none, after) =>
      final.verdict form = .error (after.faults ++ after.furthest.toList.map Refusal.error)

variable {final : Reached} {scan : Scan} {raw stage next : Stage} {noted : List Continuation}

theorem Agrees.bind {first : Parser α} {second : α → Parser β} {middle : α → Scan → Prop}
    {goesOn : β → Scan → Prop} (agrees : Agrees form final middle (first scan))
    (later : ∀ a after, middle a after → Agrees form final goesOn (second a after)) :
    Agrees form final goesOn ((first >>= second) scan) := by
  rw [Parser.bind_apply]
  cases outcome : first scan with
  | mk result after =>
      rw [outcome] at agrees
      cases result with
      | none => exact agrees
      | some a => exact later a after agrees

theorem Agrees.bind_of_fails {first : Parser α} {second : α → Parser β}
    {goesOn : β → Scan → Prop} (fails : Agrees form final (fun _ _ => False) (first scan)) :
    Agrees form final goesOn ((first >>= second) scan) :=
  fails.bind fun _ _ => False.elim

theorem Scan.Noted.behind (recorded : scan.Noted noted) {place : Nat}
    (further : scan.position < place) : Refusal.Behind scan.furthest place := by
  cases noted with
  | nil => exact Refusal.Behind.mono recorded (Nat.le_of_lt further)
  | cons first later =>
      rw [(recorded : scan.furthest = _)]
      exact Refusal.behind_before further

namespace Follows

theorem next?_eq (follows : Follows form final scan raw stage noted) {c : Char}
    (found : scan.rest.head? = some c) :
    raw.next? form scan.position c = stage.proceed? form scan.position c := by
  rw [Stage.next?, follows.ended c found]
  simp only [follows.settles, Option.bind_some]

theorem verdict_of_refused (follows : Follows form final scan raw stage noted)
    (refused : ∀ c, scan.rest.head? = some c → stage.proceed? form scan.position c = none)
    (incomplete : scan.rest = [] → stage.result? form = none) :
    final.verdict form =
      .error (scan.faults ++
        [(Refusal.before scan.position scan.rest (noted ++ stage.expected form)).error]) := by
  have settled := Stage.settled_eq follows.settles
  rw [← follows.reaches, verdict_of_stop, settled, follows.expected_eq, follows.faults_eq]
  · intro c found
    rw [follows.next?_eq found]
    exact refused c found
  · rwa [settled]

theorem agrees_refuse {expected : Continuation} {goesOn : α → Scan → Prop}
    (follows : Follows form final scan raw stage noted) (expects : stage.expected form = [expected])
    (refused : ∀ c, scan.rest.head? = some c → stage.proceed? form scan.position c = none)
    (incomplete : scan.rest = [] → stage.result? form = none) :
    Agrees form final goesOn (none, scan.refuse expected) := by
  have fresh : expected ∉ noted := by
    have distinct := Stage.nodup_expected form raw
    rw [follows.expected_eq, expects] at distinct
    exact fun member => (List.nodup_append.mp distinct).2.2 _ member _ (by simp) rfl
  rw [Agrees, follows.noted.refuse fresh, follows.verdict_of_refused refused incomplete, expects]
  rfl

theorem take (follows : Follows form final scan raw stage noted) {c : Char} {rest : List Char}
    (rest_eq : scan.rest = c :: rest) (taken : stage.proceed? form scan.position c = some next)
    (settled : ∀ position, next.settle? position = some next)
    (same : next.errors = stage.errors) :
    Follows form final { scan with position := scan.position + c.utf8Size, rest := rest } next next
      [] where
  reaches := by
    have found : scan.rest.head? = some c := by rw [rest_eq]; rfl
    rw [← follows.reaches, rest_eq, reach]
    simp only [follows.next?_eq found, taken]
  settles := settled _
  ended c _ := Stage.extend?_of_settled settled c
  expected_eq := rfl
  noted := follows.noted.behind (Nat.lt_add_of_pos_right (Char.utf8Size_pos c))
  faults_eq := follows.faults_eq.trans same.symm

theorem symbol (follows : Follows form final scan raw stage noted) {c : Char}
    (expects : stage.expected form = [.symbol c])
    (takes : ∀ position, stage.proceed? form position c = some next)
    (refuses : ∀ d, scan.rest.head? = some d → d ≠ c →
      stage.proceed? form scan.position d = none)
    (incomplete : stage.result? form = none)
    (settled : ∀ position, next.settle? position = some next)
    (same : next.errors = stage.errors) :
    Agrees form final (fun _ after => Follows form final after next next [])
      (Parser.symbol c scan) := by
  by_cases found : scan.rest.head? = some c
  · obtain ⟨rest, rest_eq⟩ := List.head?_eq_some_iff.mp found
    have after := follows.take rest_eq (takes _) settled same
    obtain ⟨position, text, furthest, faults⟩ := scan
    cases rest_eq
    rw [Parser.symbol_cons]
    exact after
  · rw [show Parser.symbol c scan = (none, scan.refuse (.symbol c)) from Parser.symbol_of_ne found]
    apply follows.agrees_refuse expects
    · intro d other
      exact refuses d other fun same => found (same ▸ other)
    · exact fun _ => incomplete

end Follows

/-! ## Blanks -/

def Scan.AtToken (scan : Scan) : Prop :=
  ∀ c, scan.rest.head? = some c → isBlank c = false

namespace Parser

variable {position : Nat} {rest : List Char} {furthest : Option Refusal} {faults : List ReadError}
  {c : Char}

theorem skip_cons (blank : isBlank c = true) :
    (skip isBlank ⟨position, c :: rest, furthest, faults⟩).2 =
      (skip isBlank ⟨position + c.utf8Size, rest, furthest, faults⟩).2 := by
  simp [skip, blank, byteCount, Nat.add_assoc]

theorem skip_of_atToken (atToken : scan.AtToken) : (skip isBlank scan).2 = scan := by
  obtain ⟨position, rest, furthest, faults⟩ := scan
  cases rest with
  | nil => rfl
  | cons c later =>
      have token : isBlank c = false := atToken c rfl
      simp [skip, token, byteCount]

theorem padded_apply (parser : Parser α) (scan : Scan) :
    padded parser scan =
      match parser (skip isBlank scan).2 with
      | (some a, after) => (some a, (skip isBlank after).2)
      | (none, after) => (none, after) :=
  rfl

end Parser

namespace Follows

theorem skip_blanks (follows : Follows form final scan raw stage noted)
    (takes : Stage.TakesBlanks form stage) :
    ∃ raw noted, Follows form final (Parser.skip isBlank scan).2 raw stage noted ∧
      (Parser.skip isBlank scan).2.AtToken := by
  obtain ⟨position, rest, furthest, faults⟩ := scan
  induction rest generalizing position raw noted with
  | nil => exact ⟨raw, noted, follows, nofun⟩
  | cons c rest ih =>
      cases blank : isBlank c with
      | true =>
          rw [Parser.skip_cons blank]
          exact ih _ (follows.take rfl (takes.proceeds _ c blank) takes.settled rfl)
      | false =>
          have atToken : Scan.AtToken ⟨position, c :: rest, furthest, faults⟩ := by
            intro d found
            cases found
            exact blank
          rw [Parser.skip_of_atToken atToken]
          exact ⟨raw, noted, follows, atToken⟩

theorem padded {parser : Parser α} {goesOn : α → Scan → Prop} (middle : α → Scan → Prop)
    (follows : Follows form final scan raw stage noted) (takes : Stage.TakesBlanks form stage)
    (agrees : ∀ scan raw noted, Follows form final scan raw stage noted → scan.AtToken →
      Agrees form final middle (parser scan))
    (later : ∀ a after, middle a after → goesOn a (Parser.skip isBlank after).2) :
    Agrees form final goesOn (Parser.padded parser scan) := by
  obtain ⟨_, _, follows, atToken⟩ := follows.skip_blanks takes
  have agrees := agrees _ _ _ follows atToken
  rw [Parser.padded_apply]
  cases outcome : parser (Parser.skip isBlank scan).2 with
  | mk result after =>
      rw [outcome] at agrees
      cases result with
      | none => exact agrees
      | some a => exact later a after agrees

end Follows

/-! ## Labels -/

theorem Refusal.Behind.merge_label {furthest : Option Refusal} {start place : Nat}
    {rest : List Char} {expected : List Continuation} (named : Continuation)
    (behind : Refusal.Behind furthest start) (further : start ≤ place) :
    furthest.merge Refusal.merge
        ((some (Refusal.before place rest expected)).map (Refusal.label named start)) =
      some (.before place rest (if place = start then [named] else expected)) := by
  rw [Option.map_some, Refusal.label_before]
  exact (behind.mono further).merge_eq

theorem Scan.Noted.label {furthest : Option Refusal} {start : Nat} (named : Continuation)
    (recorded : scan.Noted noted) (behind : Refusal.Behind furthest start)
    (further : start < scan.position) :
    Scan.Noted
      { scan with
        furthest := furthest.merge Refusal.merge
          (scan.furthest.map (Refusal.label named start)) } noted := by
  have nearer := behind.mono (Nat.le_of_lt further)
  cases noted with
  | nil => exact nearer.merge (Refusal.Behind.map_label recorded named start)
  | cons first later =>
      rw [(recorded : scan.furthest = _), behind.merge_label named (Nat.le_of_lt further),
        if_neg (Nat.ne_of_gt further)]
      rfl

theorem Follows.label {furthest : Option Refusal} {start : Nat} (named : Continuation)
    (follows : Follows form final scan raw stage noted) (behind : Refusal.Behind furthest start)
    (further : start < scan.position) :
    Follows form final
      { scan with
        furthest := furthest.merge Refusal.merge
          (scan.furthest.map (Refusal.label named start)) } raw stage noted :=
  { follows with noted := follows.noted.label named behind further }

theorem Parser.labelled_padded {parser : Parser α} {position : Nat} {rest : List Char}
    {furthest : Option Refusal} {faults : List ReadError} {named : Continuation}
    {result : Option α} {after : Scan} (atToken : Scan.AtToken ⟨position, rest, none, faults⟩)
    (parsed : parser ⟨position, rest, none, faults⟩ = (result, after)) :
    labelled named (padded parser) ⟨position, rest, furthest, faults⟩ =
      (result,
        { (if result.isSome then (skip isBlank after).2 else after) with
          furthest := furthest.merge Refusal.merge
            (after.furthest.map (Refusal.label named position)) }) := by
  rw [labelled_apply, padded_apply, skip_of_atToken atToken, parsed]
  cases result <;> rfl

end SignedDifference
