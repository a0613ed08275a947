import CallFrame.CommandLine.Outcome

/-! # The program

Prints the outcome of the program's arguments and ends with its exit code. -/

namespace CallFrame.CommandLine

/-- The sentence on how the program is used. -/
def usage : String :=
  "usage: call-frame [--json] [--fp-regs N] [--int-regs N] [--word-size N]" ++
    " [--stack-alignment N] (frame SIGNATURE... | out-args [--fp N] [--int N])"

/-- The text for the error stream, if there is any. The report of a failure is complete. For a
misuse there is only the sentence on the usage: which argument is wrong, and why, is left out. For
a crash there is only the sentence on the fault: the thread, the place in the program and the note
on how to trace it are left out, so two additions that fault in different places leave the same
text. -/
def Ending.complaint? : Ending → Option String
  | .success => none
  | .failure error => some error.report
  | .misuse => some (usage ++ "\n")
  | .crash cause => some (cause.message ++ "\n")

end CallFrame.CommandLine

open CallFrame.CommandLine

/-- Runs the command line. -/
def main (arguments : List String) : IO UInt32 := do
  let outcome := run arguments
  IO.print outcome.output
  if let some text := outcome.ending.complaint? then
    IO.eprint text
  return outcome.ending.exitCode.toUInt32
