import Mathlib.Data.List.TakeWhile
import SignedDifference.Reading.Parser

/-!
# Parts of parsers

What the small parsers do to a scan that is given by its fields, and what becomes of the furthest
refusal.  A refusal behind which the parser has gone on gives way to the next one
(`Refusal.Behind.merge_eq`); refusals at one place are put together (`Refusal.merge_before`).
-/

set_option autoImplicit false

namespace SignedDifference

open Text (byteCount)

@[simp] theorem Span.start_ofNext (position : Nat) (rest : List Char) :
    (Span.ofNext position rest).start = position := by
  cases rest <;> rfl

namespace Refusal

variable {position place : Nat} {rest : List Char} {known expected : List Continuation}
  {furthest : Option Refusal}

@[simp] theorem start_before : (before position rest expected).span.start = position :=
  Span.start_ofNext position rest

@[simp] theorem merge_before (next : Continuation) :
    merge (before position rest known) (before position rest [next]) =
      before position rest (if next ∈ known then known else known ++ [next]) := by
  rw [merge, if_neg (by simp), if_neg (by simp)]
  rfl

theorem merge_of_lt {earlier later : Refusal} (further : earlier.span.start < later.span.start) :
    merge earlier later = later := by
  rw [merge, if_neg (Nat.lt_asymm further), if_pos further]

theorem merge_of_gt {earlier later : Refusal} (nearer : later.span.start < earlier.span.start) :
    merge earlier later = earlier := by
  rw [merge, if_pos nearer]

@[simp] theorem label_before (named : Continuation) :
    label named place (before position rest expected) =
      before position rest (if position = place then [named] else expected) := by
  rw [label, start_before]
  split <;> rfl

theorem start_label (named : Continuation) (start : Nat) (refusal : Refusal) :
    (label named start refusal).span.start = refusal.span.start := by
  rw [label]
  split <;> rfl

def Behind (furthest : Option Refusal) (place : Nat) : Prop :=
  ∀ refusal, furthest = some refusal → refusal.span.start < place

theorem behind_none (place : Nat) : Behind none place :=
  nofun

theorem behind_before (further : position < place) :
    Behind (some (before position rest expected)) place := by
  intro refusal same
  cases same
  rwa [start_before]

theorem Behind.mono (behind : Behind furthest position) (further : position ≤ place) :
    Behind furthest place :=
  fun refusal same => Nat.lt_of_lt_of_le (behind refusal same) further

theorem Behind.map_label (behind : Behind furthest place) (named : Continuation) (start : Nat) :
    Behind (furthest.map (label named start)) place := by
  intro refusal same
  obtain ⟨earlier, found, rfl⟩ := Option.map_eq_some_iff.mp same
  rw [start_label]
  exact behind earlier found

theorem Behind.merge {other : Option Refusal} (behind : Behind furthest place)
    (otherBehind : Behind other place) : Behind (furthest.merge merge other) place := by
  intro refusal same
  cases furthest with
  | none => exact otherBehind refusal (by rwa [Option.merge_none_left] at same)
  | some earlier =>
      cases other with
      | none => exact behind refusal (by rwa [Option.merge_none_right] at same)
      | some later =>
          cases same
          unfold Refusal.merge
          split
          · exact behind earlier rfl
          · split
            · exact otherBehind later rfl
            · exact behind earlier rfl

theorem Behind.merge_eq (behind : Behind furthest position) :
    furthest.merge Refusal.merge (some (before position rest expected)) =
      some (before position rest expected) := by
  cases furthest with
  | none => rfl
  | some refusal =>
      have further := behind refusal rfl
      exact congrArg some (merge_of_lt (by rwa [start_before]))

end Refusal

namespace Scan

variable {scan : Scan} {known : List Continuation} {position : Nat} {rest : List Char}
  {faults : List ReadError}

theorem refuse_before (next : Continuation) :
    refuse next ⟨position, rest, some (.before position rest known), faults⟩ =
      ⟨position, rest,
        some (.before position rest (if next ∈ known then known else known ++ [next])),
        faults⟩ := by
  rw [refuse, Option.merge_some_some, Refusal.merge_before]

/-- A refusal before the furthest one leaves no trace. -/
theorem refuse_of_beyond {refusal : Refusal} (expected : Continuation)
    (beyond : position < refusal.span.start) :
    refuse expected ⟨position, rest, some refusal, faults⟩ =
      ⟨position, rest, some refusal, faults⟩ := by
  rw [refuse, Option.merge_some_some, Refusal.merge_of_gt (by rwa [Refusal.start_before])]

/-- The furthest refusal stands at the place of the scan and expects what is listed, or stands
before it if nothing is listed. -/
def Noted (scan : Scan) : List Continuation → Prop
  | [] => Refusal.Behind scan.furthest scan.position
  | first :: later =>
      scan.furthest = some (.before scan.position scan.rest (first :: later))

theorem Noted.refuse {next : Continuation} (noted : scan.Noted known) (fresh : next ∉ known) :
    (scan.refuse next).furthest =
      some (.before scan.position scan.rest (known ++ [next])) := by
  cases known with
  | nil => exact Refusal.Behind.merge_eq noted
  | cons first later =>
      rw [Scan.refuse, (noted : scan.furthest = _), Option.merge_some_some, Refusal.merge_before,
        if_neg fresh]

end Scan

namespace Parser

variable {α β : Type} {position : Nat} {rest : List Char} {furthest : Option Refusal}
  {faults : List ReadError} {expected : Continuation} {accepts : Char → Bool} {c d : Char}

@[simp] theorem pure_apply (a : α) (scan : Scan) : (pure a : Parser α) scan = (some a, scan) :=
  rfl

@[simp] theorem bind_apply (first : Parser α) (next : α → Parser β) (scan : Scan) :
    (first >>= next) scan =
      match first scan with
      | (some a, after) => next a after
      | (none, after) => (none, after) :=
  rfl

@[simp] theorem orElse_apply (first second : Parser α) (scan : Scan) :
    (first <|> second) scan =
      match first scan with
      | (some a, after) => (some a, after)
      | (none, after) => second { scan with furthest := after.furthest } :=
  rfl

theorem satisfy_cons (accepted : accepts c = true) :
    satisfy expected accepts ⟨position, c :: rest, furthest, faults⟩ =
      (some c, ⟨position + c.utf8Size, rest, furthest, faults⟩) := by
  simp [satisfy, accepted]

theorem satisfy_of_refused (refused : ∀ c, rest.head? = some c → accepts c = false) :
    satisfy expected accepts ⟨position, rest, furthest, faults⟩ =
      (none, Scan.refuse expected ⟨position, rest, furthest, faults⟩) := by
  cases rest with
  | nil => rfl
  | cons c later => simp [satisfy, refused c rfl]

@[simp] theorem symbol_cons (c : Char) :
    symbol c ⟨position, c :: rest, furthest, faults⟩ =
      (some c, ⟨position + c.utf8Size, rest, furthest, faults⟩) :=
  satisfy_cons (beq_self_eq_true c)

theorem symbol_of_ne (other : rest.head? ≠ some c) :
    symbol c ⟨position, rest, furthest, faults⟩ =
      (none, Scan.refuse (.symbol c) ⟨position, rest, furthest, faults⟩) := by
  apply satisfy_of_refused
  intro d found
  exact beq_false_of_ne fun same => other (same ▸ found)

theorem optional_symbol_cons (c : Char) :
    optional (symbol c) ⟨position, c :: rest, furthest, faults⟩ =
      (some (some c), ⟨position + c.utf8Size, rest, furthest, faults⟩) := by
  simp only [optional, orElse_apply, bind_apply, symbol_cons, pure_apply]

theorem optional_symbol_of_ne (other : rest.head? ≠ some c) :
    optional (symbol c) ⟨position, rest, furthest, faults⟩ =
      (some none, Scan.refuse (.symbol c) ⟨position, rest, furthest, faults⟩) := by
  simp only [optional, orElse_apply, bind_apply, symbol_of_ne other, pure_apply]
  rfl

section Words

variable (position : Nat) (rest : List Char) (furthest : Option Refusal) (faults : List ReadError)

theorem word_append (letters : List Char) :
    word letters ⟨position, letters ++ rest, furthest, faults⟩ =
      (some (), ⟨position + byteCount letters, rest, furthest, faults⟩) := by
  induction letters generalizing position with
  | nil => rfl
  | cons c letters ih =>
      rw [byteCount, ← Nat.add_assoc, ← ih]
      simp only [word, bind_apply, List.cons_append, symbol_cons]

theorem word_of_ne (front : List Char) (back : List Char) (other : rest.head? ≠ some c) :
    word (front ++ c :: back) ⟨position, front ++ rest, furthest, faults⟩ =
      (none, Scan.refuse (.symbol c) ⟨position + byteCount front, rest, furthest, faults⟩) := by
  induction front generalizing position with
  | nil =>
      simp only [List.nil_append, word, bind_apply, symbol_of_ne other, byteCount, Nat.add_zero]
  | cons d front ih =>
      rw [byteCount, ← Nat.add_assoc, ← ih]
      simp only [List.cons_append, word, bind_apply, symbol_cons]

end Words

@[simp] theorem many_apply :
    many expected accepts ⟨position, rest, furthest, faults⟩ =
      (some (rest.takeWhile accepts),
        Scan.refuse expected ⟨position + byteCount (rest.takeWhile accepts),
          rest.dropWhile accepts, furthest, faults⟩) :=
  rfl

theorem labelled_apply (label : Continuation) (parser : Parser α) :
    labelled label parser ⟨position, rest, furthest, faults⟩ =
      ((parser ⟨position, rest, none, faults⟩).1,
        { (parser ⟨position, rest, none, faults⟩).2 with
          furthest := furthest.merge Refusal.merge
            ((parser ⟨position, rest, none, faults⟩).2.furthest.map
              (Refusal.label label position)) }) :=
  rfl

end Parser

end SignedDifference
