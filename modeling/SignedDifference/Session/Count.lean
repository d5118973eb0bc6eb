import SignedDifference.Numeral

/-!
# Counts

A count in a command is a decimal below two to the 64th power, after an optional plus sign.  A text
that is none is refused at its first character that is no digit or makes the number too large.
-/

set_option autoImplicit false

namespace SignedDifference.Session

inductive CountError
  | invalidDigit
  | tooLarge
deriving DecidableEq, Repr, Inhabited

def CountError.message : CountError → String
  | .invalidDigit => "invalid digit found in string"
  | .tooLarge => "number too large to fit in target type"

def countFrom (read : Nat) : List Char → Except CountError Nat
  | [] => .ok read
  | c :: rest =>
      match Numeral.digit? 10 c with
      | none => .error .invalidDigit
      | some digit =>
          if read * 10 + digit < 0x10000000000000000 then countFrom (read * 10 + digit) rest
          else .error .tooLarge

/-- A sign alone, like no text at all, holds no digit. -/
def readCount : List Char → Except CountError Nat
  | [] => .error .invalidDigit
  | ['+'] => .error .invalidDigit
  | '+' :: digits => countFrom 0 digits
  | digits => countFrom 0 digits

end SignedDifference.Session
