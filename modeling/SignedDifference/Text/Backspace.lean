import SignedDifference.Text.ByteCount
import SignedDifference.Text.Grapheme

/-!
# Backspaces

A backspace takes back the grapheme cluster before it.  What is remembered of a cluster is its size
in bytes, kept in one byte, and taking a cluster back cuts as many bytes off the end of the text.
A cluster of less than 256 bytes is therefore taken back whole (`back_put`); of a longer one, the
bytes that the remembered size leaves out stay in the text.
-/

set_option autoImplicit false

namespace SignedDifference.Text

def backspace : Char := '\x08'

/-- What stays of a text, its last character first, when bytes are cut off its end.  A character
that the cut would split stays. -/
def cutBytes : Nat → List Char → List Char
  | _, [] => []
  | count, c :: earlier =>
      if c.utf8Size ≤ count then cutBytes (count - c.utf8Size) earlier else c :: earlier

/-- The text entered so far, its last character first, and the remembered sizes of the clusters
that may still be taken back, the last one first. -/
structure Typed where
  reversed : List Char
  sizes : List UInt8
deriving DecidableEq, Repr, Inhabited

namespace Typed

def empty : Typed := ⟨[], []⟩

def put (typed : Typed) (cluster : List Char) : Typed :=
  ⟨cluster.reverse ++ typed.reversed, UInt8.ofNat (byteCount cluster) :: typed.sizes⟩

def back (typed : Typed) : Typed :=
  match typed.sizes with
  | [] => typed
  | size :: earlier => ⟨cutBytes size.toNat typed.reversed, earlier⟩

def enter (typed : Typed) (cluster : List Char) : Typed :=
  if cluster = [backspace] then typed.back else typed.put cluster

end Typed

def applyBackspaces (text : List Char) : List Char :=
  if backspace ∈ text then ((clusters text).foldl Typed.enter Typed.empty).reversed.reverse
  else text

theorem cutBytes_zero (text : List Char) : cutBytes 0 text = text := by
  cases text with
  | nil => rfl
  | cons c earlier => simp [cutBytes, Nat.ne_of_gt c.utf8Size_pos]

theorem cutBytes_append (text earlier : List Char) :
    cutBytes (byteCount text) (text ++ earlier) = earlier := by
  induction text with
  | nil => exact cutBytes_zero earlier
  | cons c text ih =>
      rw [byteCount, List.cons_append, cutBytes, if_pos (Nat.le_add_right _ _),
        Nat.add_sub_cancel_left, ih]

theorem Typed.back_put (typed : Typed) (cluster : List Char) (short : byteCount cluster < 256) :
    (typed.put cluster).back = typed := by
  have kept : (UInt8.ofNat (byteCount cluster)).toNat = byteCount cluster :=
    UInt8.toNat_ofNat_of_lt short
  rw [Typed.put, Typed.back]
  simp only [kept]
  rw [← byteCount_reverse cluster, cutBytes_append]

end SignedDifference.Text
