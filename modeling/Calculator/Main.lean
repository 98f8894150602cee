import Calculator.CommandLine

/-!
# The program

Reads the file that the arguments name, if they name one, prints the answer to
the arguments and ends with its exit code.
-/

set_option autoImplicit false

open Calculator

/-- The contents of a file, if it can be read. -/
private def contents? (name : String) : IO (Option ByteArray) := do
  try
    return some (← IO.FS.readBinFile name)
  catch _ =>
    return none

/-- Answers the arguments of the program. -/
def main (arguments : List String) : IO UInt32 := do
  let arguments := arguments.map String.toList
  let contents ← match CommandLine.neededFile? arguments with
    | some name => contents? name
    | none => pure none
  let answer := CommandLine.answer arguments fun _ => contents
  IO.print answer.output
  IO.eprint answer.errors
  return answer.exitCode
