import SignedDifference.Reading.Error
import SignedDifference.Text.Blank
import SignedDifference.Text.ByteCount

/-!
# Parsers

A parser takes a scan of a text further and gives a value, or it fails and another alternative
starts where it did.  Wherever a parser is refused it notes what it expected, and the scan keeps the
furthest note also when an alternative succeeds from before it.  Of notes at one place the
expectations are put together.  A value that does not fit does not stop a parser: the fault is kept
and the parser goes on with a value in its stead.
-/

set_option autoImplicit false

namespace SignedDifference

open Text (byteCount)

/-- What a parser was refused at, and what it expected there. -/
structure Refusal where
  span : Span
  found : Option Char
  expected : List Continuation
deriving DecidableEq, Repr

namespace Refusal

def before (position : Nat) (rest : List Char) (expected : List Continuation) : Refusal :=
  ⟨.ofNext position rest, rest.head?, expected⟩

/-- The further one of two refusals, with the expectations of both if they are at one place. -/
def merge (earlier later : Refusal) : Refusal :=
  if later.span.start < earlier.span.start then earlier
  else if earlier.span.start < later.span.start then later
  else
    { earlier with
      expected := later.expected.foldl
        (fun known next => if next ∈ known then known else known ++ [next]) earlier.expected }

/-- A refusal where the parser with the label started expects that parser as a whole. -/
def label (label : Continuation) (start : Nat) (refusal : Refusal) : Refusal :=
  if refusal.span.start = start then { refusal with expected := [label] } else refusal

def error (refusal : Refusal) : ReadError :=
  .unexpected refusal.span refusal.found refusal.expected

end Refusal

structure Scan where
  position : Nat
  rest : List Char
  furthest : Option Refusal
  faults : List ReadError

namespace Scan

def start (text : List Char) : Scan :=
  ⟨0, text, none, []⟩

def refuse (expected : Continuation) (scan : Scan) : Scan :=
  { scan with
    furthest := scan.furthest.merge Refusal.merge
      (some (.before scan.position scan.rest [expected])) }

end Scan

def Parser (α : Type) : Type :=
  Scan → Option α × Scan

namespace Parser

variable {α β : Type}

instance : Monad Parser where
  pure a scan := (some a, scan)
  bind first next scan :=
    match first scan with
    | (some a, after) => next a after
    | (none, after) => (none, after)

/-- The second alternative starts where the first did, without its faults. -/
instance : OrElse (Parser α) where
  orElse first second scan :=
    match first scan with
    | (some a, after) => (some a, after)
    | (none, after) => second () { scan with furthest := after.furthest }

def optional (parser : Parser α) : Parser (Option α) :=
  (do return some (← parser)) <|> return none

def satisfy (expected : Continuation) (accepts : Char → Bool) : Parser Char := fun scan =>
  match scan.rest with
  | [] => (none, scan.refuse expected)
  | c :: rest =>
      if accepts c then
        (some c, { scan with position := scan.position + c.utf8Size, rest := rest })
      else (none, scan.refuse expected)

def symbol (c : Char) : Parser Char :=
  satisfy (.symbol c) (· == c)

def word : List Char → Parser Unit
  | [] => return ()
  | c :: rest => do
      let _ ← symbol c
      word rest

def skip (accepts : Char → Bool) : Parser (List Char) := fun scan =>
  let taken := scan.rest.takeWhile accepts
  (some taken,
    { scan with
      position := scan.position + byteCount taken
      rest := scan.rest.dropWhile accepts })

/-- Characters that the test accepts, of which more are expected where they end. -/
def many (expected : Continuation) (accepts : Char → Bool) : Parser (List Char) := fun scan =>
  let (taken, after) := skip accepts scan
  (taken, after.refuse expected)

def endOfInput : Parser Unit := fun scan =>
  match scan.rest with
  | [] => (some (), scan)
  | _ :: _ => (none, scan.refuse .endOfInput)

def padded (parser : Parser α) : Parser α := do
  let _ ← skip Text.isBlank
  let a ← parser
  let _ ← skip Text.isBlank
  return a

/-- The refusals of a parser with a label are told apart from the earlier ones. -/
def labelled (label : Continuation) (parser : Parser α) : Parser α := fun scan =>
  let (result, after) := parser { scan with furthest := none }
  let furthest := after.furthest.map (Refusal.label label scan.position)
  (result, { after with furthest := scan.furthest.merge Refusal.merge furthest })

/-- The value denoted by what was parsed, or the stand-in if it does not fit. -/
def validate (parser : Parser β) (denote : β → Except RangeFault α) (standIn : α) : Parser α :=
  fun scan =>
    match parser scan with
    | (none, after) => (none, after)
    | (some b, after) =>
        match denote b with
        | .ok a => (some a, after)
        | .error fault =>
            (some standIn,
              { after with
                faults := after.faults ++ [.outOfRange ⟨scan.position, after.position⟩ fault] })

def conclude : Option α × Scan → Except (List ReadError) α
  | (some a, scan) => if scan.faults.isEmpty then .ok a else .error scan.faults
  | (none, scan) => .error (scan.faults ++ scan.furthest.toList.map Refusal.error)

def run (parser : Parser α) (text : String) : Except (List ReadError) α :=
  conclude (parser (Scan.start text.toList))

end Parser

end SignedDifference
