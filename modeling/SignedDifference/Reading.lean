import SignedDifference.Reading.Syntax

/-!
# Reading expressions and case lines
-/

set_option autoImplicit false

namespace SignedDifference

@[irreducible] def read (form : Form) (text : String) : Except (List ReadError) form.Result :=
  form.parser.run text

def parse (text : String) : Except (List ReadError) Subtraction :=
  read .expression text

def parseCase (text : String) : Except (List ReadError) CaseLine :=
  read .caseLine text

end SignedDifference
