import SignedDifference.Session.Entry

/-!
# Greetings and help
-/

set_option autoImplicit false

namespace SignedDifference.Session

open Entry Segment

def welcome : List Entry :=
  [.line [cyan "subcheck REPL - Overflow-Checked i64 Subtraction Explorer"],
   .line [cyan "========================================================="],
   .line [.plain "Type ", green ":help", .plain " for help"],
   blank]

def helpHint : Entry :=
  .line [.plain "Type ", green ":help", .plain " for help"]

def help : List Entry :=
  [blank,
   .line [yellow "Usage:"],
   .line
     [.plain "  Enter ", magenta "subtractions", .plain " to evaluate them or ",
      green "commands", .plain " for other functions"],
   blank,
   .line [yellow "Commands", .plain ":"],
   .line
     [.plain "  ", green ":h[elp]", .plain " or ", green ":?",
      .plain "                   - Show this help message"],
   .line
     [.plain "  ", green ":ex[plain]", .plain " ", magenta "<expr>", .plain " or ", green ":!",
      .plain " ", magenta "<expr>", .plain "  - Explain a subtraction with every method"],
   .line
     [.plain "  ", green ":suite",
      .plain "                        - Run the boundary suite step by step"],
   .line
     [.plain "  ", green ":cases", .plain "                        - List the boundary suite"],
   .line
     [.plain "  ", green ":check", .plain " ", magenta "<case>",
      .plain "                 - Check a single case line"],
   .line
     [.plain "  ", green ":fuzz", .plain " ", magenta "[n]",
      .plain "                      - Check random boundary-biased cases"],
   .line
     [.plain "  ", green ":exit", .plain " or ", green ":q[uit]",
      .plain "                - Exit the REPL"],
   blank,
   .line [yellow "Examples", .plain ":"],
   .line [.plain "  ", magenta "7 - 10", .plain "                       - Plain subtraction"],
   .line [.plain "  ", magenta "MIN - 1", .plain "                     - Named bounds"],
   .line
     [.plain "  ", magenta "0x7FFFFFFFFFFFFFFF - 0xFFFFFFFFFFFFFFFF",
      .plain "  - Hex operands are 64-bit patterns"],
   .line
     [.plain "  ", green ":check", .plain " ", magenta "0 - MIN => overflow",
      .plain "   - Check an expectation"],
   blank]

def farewell : Entry :=
  .line [yellow "Goodbye!"]

def closing (count : Nat) : Entry :=
  .line [yellow "Goodbye!", .plain (" " ++ Numeral.decimal count ++ " lines processed.")]

end SignedDifference.Session
