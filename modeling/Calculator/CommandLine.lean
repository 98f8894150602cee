import Calculator.CommandLine.Options
import Calculator.Run

/-!
# The command line

What the program answers to its arguments, as a function of them and of the
contents of files. A calculation that succeeds prints one line. One that fails
prints its message to the error stream, as does a file that is missing or is not
UTF-8, and the exit code is 1. Arguments that are not well formed are answered by
exit code 2 alone.
-/

set_option autoImplicit false

namespace Calculator.CommandLine

/-- What the program prints and the code with which it ends. -/
structure Answer where
  exitCode : UInt32
  output : String
  errors : String
deriving Repr, DecidableEq

/-- The line that names the program and its version. -/
def versionLine : String := "exprima 0.1.0"

/-- The description of the program and of its options. -/
def helpText : String :=
  "exprima evaluates arithmetic and logical expressions such as `1 + 2 * 3`, `2 ** 10 >> 3` or " ++
  "`1 < 2 ? 10 : 20`\n\n" ++
  "Usage: exprima [OPTIONS] <CONTENTS>\n\n" ++
  "Arguments:\n" ++
  "  <CONTENTS>  \n\n" ++
  "Options:\n" ++
  "  -f, --file                       Tells exprima to read the expression from a file instead\n" ++
  "  -a, --ast                        Prints the AST string instead of evaluating\n" ++
  "  -e, --eval-ast                   Treats the input as an AST string such as `+(n:1,n:2)`\n" ++
  "      --max-nesting <MAX_NESTING>  Maximum nesting of parentheses, prefix operators and " ++
  "conditionals [default: 128]\n" ++
  "      --max-depth <MAX_DEPTH>      Maximum depth of the expression tree [default: 512]\n" ++
  "  -h, --help                       Print help\n" ++
  "  -V, --version                    Print version\n"

/-- The line that a calculation prints for an expression without blanks around it. -/
def Calculation.line (calculation : Calculation) (input : List Char) :
    Except Failure (List Char) :=
  match calculation.mode with
  | .run => do return (← (Calculator.run calculation.limits input).outcome).text
  | .encode => do return (← parseSource calculation.limits input).encode
  | .evaluateEncoded => do
      let result := (Calculator.evaluateEncoded calculation.limits input).outcome
      return (← result.mapError .eval).text

/-- The text that a calculation is about, if it can be had. -/
def Calculation.input? (calculation : Calculation) (file : String → Option ByteArray) :
    Option (List Char) :=
  if calculation.fromFile then do
    let bytes ← file (String.ofList calculation.contents)
    let text ← String.fromUTF8? bytes
    return text.toList
  else some calculation.contents

/-- The answer to a calculation. -/
def Calculation.answer (calculation : Calculation) (file : String → Option ByteArray) : Answer :=
  match calculation.input? file with
  | none =>
      let name := String.ofList calculation.contents
      ⟨1, "", s!"Failed to read the input file '{name}'. Perhaps this file does not exist?\n"⟩
  | some input =>
      match calculation.line (Text.trim input) with
      | .ok line => ⟨0, String.ofList line ++ "\n", ""⟩
      | .error failure => ⟨1, "", failure.message ++ "\n"⟩

/-- The answer to the arguments of the program. -/
def answer (arguments : List (List Char)) (file : String → Option ByteArray) : Answer :=
  match request? arguments with
  | none => ⟨2, "", ""⟩
  | some .help => ⟨0, helpText, ""⟩
  | some .version => ⟨0, versionLine ++ "\n", ""⟩
  | some (.calculate calculation) => calculation.answer file

/-- The file that must be read before the arguments can be answered. -/
def neededFile? (arguments : List (List Char)) : Option String :=
  match request? arguments with
  | some (.calculate calculation) =>
      if calculation.fromFile then some (String.ofList calculation.contents) else none
  | _ => none

end Calculator.CommandLine
