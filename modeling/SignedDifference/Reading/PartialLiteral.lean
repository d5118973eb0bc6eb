import SignedDifference.Reading.WrittenLiteral

/-!
# Literals under way

The beginning of a literal, as far as it has been read: which characters may follow it, and what is
written if it ends here.  A zero is not followed by digits, and without a sign it may turn out to be
the first character of a bit pattern.
-/

set_option autoImplicit false

namespace SignedDifference

inductive PartialLiteral
  | sign
  | hexMark
  | m
  | mi
  | ma
  /-- The text read is a literal, though a longer one may start with it. -/
  | whole (written : WrittenLiteral)
deriving DecidableEq, Repr, Inhabited

namespace PartialLiteral

def begin? (c : Char) : Option PartialLiteral :=
  if c = '-' then some .sign
  else if c = 'M' then some .m
  else (Numeral.digit? 10 c).map fun digit => .whole (.decimal false digit)

def extendWhole? (c : Char) : WrittenLiteral → Option PartialLiteral
  | .decimal negative magnitude =>
      if magnitude = 0 then
        if negative = false ∧ (c = 'x' ∨ c = 'X') then some .hexMark else none
      else
        (Numeral.digit? 10 c).map fun digit => .whole (.decimal negative (magnitude * 10 + digit))
  | .pattern bits =>
      (Numeral.digit? 16 c).map fun digit => .whole (.pattern (bits * 16 + digit))
  | .min | .max => none

def extend? (c : Char) : PartialLiteral → Option PartialLiteral
  | .sign => (Numeral.digit? 10 c).map fun digit => .whole (.decimal true digit)
  | .hexMark => (Numeral.digit? 16 c).map fun digit => .whole (.pattern digit)
  | .m => if c = 'I' then some .mi else if c = 'A' then some .ma else none
  | .mi => if c = 'N' then some (.whole .min) else none
  | .ma => if c = 'X' then some (.whole .max) else none
  | .whole written => extendWhole? c written

/-- What is written if the literal ends here, or none if more characters must follow. -/
def complete? : PartialLiteral → Option WrittenLiteral
  | .whole written => some written
  | .sign | .hexMark | .m | .mi | .ma => none

def continuations : PartialLiteral → List Continuation
  | .sign => [.nonzeroDigit, .symbol '0']
  | .hexMark => [.digit]
  | .m => [.symbol 'I', .symbol 'A']
  | .mi => [.symbol 'N']
  | .ma => [.symbol 'X']
  | .whole (.decimal negative magnitude) =>
      if magnitude = 0 then if negative then [] else [.symbol 'x', .symbol 'X'] else [.digit]
  | .whole (.pattern _) => [.digit]
  | .whole .min | .whole .max => []

end PartialLiteral

end SignedDifference
