import SignedDifference.BoundaryTable
import SignedDifference.Session.Transcript

/-!
# Command line

Without an argument the boundary suite is run and the exit code tells whether it passed.  `session`
reads lines from the standard input and answers them; `table` prints the boundary table.
-/

set_option autoImplicit false

namespace SignedDifference.CommandLine

/-- What the input holds until its end, after the bytes read so far. -/
partial def readToEnd (input : IO.FS.Stream) (bytes : ByteArray) : IO ByteArray := do
  let chunk ← input.read 65536
  if chunk.isEmpty then return bytes else readToEnd input (bytes ++ chunk)

def runSession : IO UInt32 := do
  let bytes ← readToEnd (← IO.getStdin) ByteArray.empty
  let seed ← IO.rand 0 (0x10000000000000000 - 1)
  for entry in Session.transcript (WordSource.seeded (UInt64.ofNat seed)) bytes.toList do
    IO.println entry.render
  return 0

def printTable : IO UInt32 := do
  for line in BoundaryTable.lines do
    IO.println line
  return 0

end SignedDifference.CommandLine

open SignedDifference in
def main (args : List String) : IO UInt32 :=
  match args with
  | [] => return (Suite.run Case.boundary).code.toUInt32
  | ["session"] => CommandLine.runSession
  | ["table"] => CommandLine.printTable
  | _ => do
      IO.eprintln "usage: signed-difference [session | table]"
      return 2
