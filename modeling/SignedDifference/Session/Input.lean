import SignedDifference.Text.Backspace

/-!
# Session input

The input of a session is bytes.  They are cut after each line feed, and each piece is decoded on
its own, so that a piece which is no UTF-8 spoils only what follows.  The line feed is dropped with
a carriage return before it, and backspaces are carried out.
-/

set_option autoImplicit false

namespace SignedDifference.Session

structure RawLine where
  bytes : List UInt8
  /-- Whether a line feed ended the line; only the last line may lack one. -/
  terminated : Bool
deriving DecidableEq, Repr, Inhabited

def lineFeed : UInt8 := 10

/-- The lines of the input, the first of which has the bytes `current` so far, last byte first. -/
def rawLinesFrom (current : List UInt8) : List UInt8 → List RawLine
  | [] => if current.isEmpty then [] else [⟨current.reverse, false⟩]
  | byte :: rest =>
      if byte = lineFeed then ⟨current.reverse, true⟩ :: rawLinesFrom [] rest
      else rawLinesFrom (byte :: current) rest

def rawLines (input : List UInt8) : List RawLine :=
  rawLinesFrom [] input

def dropReturn (text : List Char) : List Char :=
  if text.getLast? = some '\r' then text.dropLast else text

def RawLine.text? (line : RawLine) : Option (List Char) :=
  (String.fromUTF8? ⟨line.bytes.toArray⟩).map fun text =>
    Text.applyBackspaces (if line.terminated then dropReturn text.toList else text.toList)

end SignedDifference.Session
