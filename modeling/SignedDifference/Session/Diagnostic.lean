import SignedDifference.Reading.Error
import SignedDifference.Session.Entry
import SignedDifference.Text.Line
import SignedDifference.Text.Width

/-!
# Diagnostics

A read error shown at a place of the text that was read.  The ends of the error's span, which are
byte offsets, are counted off as characters of the text.  A span is drawn when its first and its
last character stand in the text or in the place right behind it.  It has a label when its last
character stands in the text, and the label hangs from the middle character of a span on one line,
or from the margin for a span over several lines.
-/

set_option autoImplicit false

namespace SignedDifference.Session

def drawable (length : Nat) (span : Span) : Bool :=
  span.start ≤ length && (span.stop ≤ span.start || span.stop ≤ length + 1)

/-- Whether a span has a label in a text with the given lines.  Nothing can hang from a character
without width. -/
def labelled (chars : List Char) (lines : List (List Char)) (span : Span) : Bool :=
  let last := max span.start (span.stop - 1)
  let middle := (span.start + span.stop) / 2
  span.stop ≤ chars.length &&
    ((Text.lineAt span.start 1 0 lines).number != (Text.lineAt last 1 0 lines).number ||
      !chars[middle]?.any Text.hasNoWidth)

def diagnose (prompt : Nat) (text : String) (error : ReadError) : Entry :=
  let chars := text.toList
  let span := error.span
  if drawable chars.length span then
    let lines := Text.splitLines chars
    let line := Text.lineAt span.start 1 0 lines
    let location := ⟨line.number + (prompt - 1), span.start - line.start + 1⟩
    .diagnostic (some location) (if labelled chars lines span then some error.message else none)
  else .diagnostic none none

end SignedDifference.Session
