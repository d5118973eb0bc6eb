import SignedDifference.Case
import SignedDifference.WordSource

/-!
# Generated cases

Cases with operands drawn near the ends of the range and near zero more often than elsewhere.  An
operand takes an offset, one of four anchors, and a further word if the anchor needs one.  The
expectation comes from the exact difference, so that a generated case is right by construction.
-/

set_option autoImplicit false

namespace SignedDifference.Generator

def reach : Nat := 4

/-- A number from zero to `reach`: the high word of the product of a word and the number of choices,
plus the carry that a second word brings when the low word leaves room for doubt. -/
def drawOffset (source : WordSource) : Nat × WordSource :=
  let choices := reach + 1
  let (x, source) := source.take
  let product := x.toNat * choices
  let high := product / 0x10000000000000000
  let low := product % 0x10000000000000000
  if low ≤ 0x10000000000000000 - choices then (high, source)
  else
    let (y, source) := source.take
    let carried := low + y.toNat * choices / 0x10000000000000000
    (if 0x10000000000000000 ≤ carried then high + 1 else high, source)

inductive Anchor
  | anywhere
  | least
  | greatest
  | zero
deriving DecidableEq, Repr, Inhabited

/-- The two high bits of the low half of a word choose the anchor. -/
def Anchor.ofWord (word : UInt64) : Anchor :=
  match word.toNat % 0x100000000 * 4 / 0x100000000 with
  | 0 => .anywhere
  | 1 => .least
  | 2 => .greatest
  | _ => .zero

def drawAnchor (source : WordSource) : Anchor × WordSource :=
  let (word, source) := source.take
  (Anchor.ofWord word, source)

def operandAt (anchor : Anchor) (offset : Nat) (source : WordSource) : Int64 × WordSource :=
  match anchor with
  | .anywhere =>
      let (word, source) := source.take
      (word.toInt64, source)
  | .least => (Int64.minValue + Int64.ofNat offset, source)
  | .greatest => (Int64.maxValue - Int64.ofNat offset, source)
  | .zero =>
      let (word, source) := source.take
      (if word.toNat < 0x8000000000000000 then Int64.ofNat offset else -Int64.ofNat offset, source)

def drawOperand (source : WordSource) : Int64 × WordSource :=
  let (offset, source) := drawOffset source
  let (anchor, source) := drawAnchor source
  operandAt anchor offset source

def drawCase (source : WordSource) : Case × WordSource :=
  let (a, source) := drawOperand source
  let (b, source) := drawOperand source
  (⟨a, b, (Method.widened.subtract a b).overflowed⟩, source)

def drawCases : Nat → WordSource → List Case × WordSource
  | 0, source => ([], source)
  | count + 1, source =>
      let (case, source) := drawCase source
      let (cases, source) := drawCases count source
      (case :: cases, source)

end SignedDifference.Generator
