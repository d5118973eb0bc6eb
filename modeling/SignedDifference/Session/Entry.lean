import SignedDifference.Numeral

/-!
# Session output

What a session prints, entry by entry.  A line is a row of segments, some of them coloured.  A
diagnostic keeps the place and the label of a read error apart, and the number of generated cases
that overflow is kept apart from its line, because it depends on the words drawn.
-/

set_option autoImplicit false

namespace SignedDifference.Session

inductive Colour
  | red
  | green
  | yellow
  | blue
  | magenta
  | cyan
deriving DecidableEq, Repr, Inhabited

def Colour.code : Colour → String
  | .red => "31"
  | .green => "32"
  | .yellow => "33"
  | .blue => "34"
  | .magenta => "35"
  | .cyan => "36"

inductive Segment
  | plain (text : String)
  | painted (colour : Colour) (text : String)
deriving DecidableEq, Repr, Inhabited

namespace Segment

def red (text : String) : Segment := .painted .red text

def green (text : String) : Segment := .painted .green text

def yellow (text : String) : Segment := .painted .yellow text

def blue (text : String) : Segment := .painted .blue text

def magenta (text : String) : Segment := .painted .magenta text

def cyan (text : String) : Segment := .painted .cyan text

/-- The text with the control sequences that switch its colour on and off. -/
def render : Segment → String
  | .plain text => text
  | .painted colour text => "\x1b[" ++ colour.code ++ "m" ++ text ++ "\x1b[0m"

def renderAll (segments : List Segment) : String :=
  String.join (segments.map render)

end Segment

/-- A line and a column, both counted from one. -/
structure Location where
  line : Nat
  column : Nat
deriving DecidableEq, Repr, Inhabited

namespace Location

def display (location : Location) : String :=
  "<stdin>:" ++ Numeral.decimal location.line ++ ":" ++ Numeral.decimal location.column

end Location

inductive Entry
  | line (segments : List Segment)
  /-- A read error; nothing is drawn without a location, and no message without a label. -/
  | diagnostic (location : Option Location) (label : Option String)
  /-- How many cases were generated, and how many of them overflow. -/
  | generated (count overflowing : Nat)
deriving DecidableEq, Repr, Inhabited

namespace Entry

def plain (text : String) : Entry :=
  .line [.plain text]

def blank : Entry :=
  .line []

def failure (message : List Segment) : Entry :=
  .line ([.red "Error", .plain ": "] ++ message)

def generatedLine (count : Nat) (overflowing : Segment) : List Segment :=
  [.plain "Generated ", .yellow (Numeral.decimal count), .plain " cases (", overflowing,
   .plain " overflowing)"]

/-- A diagnostic is a heading, its location and its label, as far as there are any. -/
def render : Entry → String
  | .line segments => Segment.renderAll segments
  | .diagnostic location label =>
      Segment.renderAll
        ([.red "Error", .plain ": Parse Error"] ++
          (match location with
            | some place => [.plain " at ", .cyan place.display]
            | none => []) ++
          match label with
          | some message => [.plain ": ", .red message]
          | none => [])
  | .generated count overflowing =>
      Segment.renderAll (generatedLine count (.blue (Numeral.decimal overflowing)))

end Entry

end SignedDifference.Session
