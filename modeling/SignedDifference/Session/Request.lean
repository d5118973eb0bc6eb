import SignedDifference.Text.Blank

/-!
# Requests

What a line of a session asks for.  A line that starts with a colon is a command, whose name ends at
the first blank and whose argument is what follows, trimmed; any other line is an expression.
-/

set_option autoImplicit false

namespace SignedDifference.Session

inductive Request
  | evaluate (text : String)
  | explain (text : String)
  | suite
  | cases
  | check (text : String)
  | fuzz (count : String)
  | help
  | exit
  | unknown (name : String)
deriving DecidableEq, Repr, Inhabited

namespace Request

def ofCommand (name argument : String) : Request :=
  if name ∈ ["help", "h", "?"] then .help
  else if name ∈ ["exit", "quit", "q"] then .exit
  else if name ∈ ["explain", "ex", "!"] then .explain argument
  else if name = "suite" then .suite
  else if name = "cases" then .cases
  else if name = "check" then .check argument
  else if name = "fuzz" then .fuzz argument
  else .unknown name

def ofLine (line : String) : Request :=
  match line.toList with
  | ':' :: command =>
      ofCommand (String.ofList (command.takeWhile fun c => !Text.isBlank c))
        (String.ofList (Text.trim (command.dropWhile fun c => !Text.isBlank c)))
  | _ => .evaluate line

end Request

end SignedDifference.Session
