import Calculator.Limits

/-!
# Command-line arguments

Arguments are read from left to right. A long option begins with two dashes and
may carry its value after `=`; short options are single letters and may be
grouped after one dash; `--` ends the options; every other argument, a lone dash
among them, is the expression or the name of the file that holds it. An option
may be given once. Asking for help or for the version ends the reading there, so
that nothing after it matters and everything before it must be well formed.
-/

set_option autoImplicit false

namespace Calculator.CommandLine

/-- What is to be done with the expression. -/
inductive Mode where
  /-- Evaluate source text. -/
  | run
  /-- Show the encoded form of source text. -/
  | encode
  /-- Evaluate an encoded expression. -/
  | evaluateEncoded
deriving Repr, DecidableEq

/-- A calculation that was asked for. -/
structure Calculation where
  mode : Mode
  /-- `contents` is the name of a file that holds the expression. -/
  fromFile : Bool
  limits : Limits
  contents : List Char
deriving Repr, DecidableEq

/-- What the arguments ask for. -/
inductive Request where
  | help
  | version
  | calculate (calculation : Calculation)
deriving Repr, DecidableEq

/-- The options and the expression that have been given so far. -/
structure Given where
  file : Bool := false
  encode : Bool := false
  evaluateEncoded : Bool := false
  maxNesting : Option Nat := none
  maxDepth : Option Nat := none
  contents : Option (List Char) := none
deriving Repr, DecidableEq

/-- An option without a value. -/
inductive Flag where
  | file
  | encode
  | evaluateEncoded
  | help
  | version
deriving Repr, DecidableEq

/-- An option whose value is a limit. -/
inductive LimitOption where
  | maxNesting
  | maxDepth
deriving Repr, DecidableEq

namespace Flag

/-- Every flag. -/
def all : List Flag := [.file, .encode, .evaluateEncoded, .help, .version]

/-- The name of a flag after two dashes. -/
def name : Flag → List Char
  | file => ['f', 'i', 'l', 'e']
  | encode => ['a', 's', 't']
  | evaluateEncoded => ['e', 'v', 'a', 'l', '-', 'a', 's', 't']
  | help => ['h', 'e', 'l', 'p']
  | version => ['v', 'e', 'r', 's', 'i', 'o', 'n']

/-- The letter of a flag after one dash. -/
def letter : Flag → Char
  | file => 'f'
  | encode => 'a'
  | evaluateEncoded => 'e'
  | help => 'h'
  | version => 'V'

end Flag

namespace LimitOption

/-- Every option with a limit. -/
def all : List LimitOption := [.maxNesting, .maxDepth]

/-- The name of an option after two dashes. -/
def name : LimitOption → List Char
  | maxNesting => ['m', 'a', 'x', '-', 'n', 'e', 's', 't', 'i', 'n', 'g']
  | maxDepth => ['m', 'a', 'x', '-', 'd', 'e', 'p', 't', 'h']

end LimitOption

/-- The limit that a text writes: decimal digits, with an optional plus, of a number of at most 64
bits. -/
def limit? (text : List Char) : Option Nat :=
  let digits := match text with
    | '+' :: digits => digits
    | digits => digits
  if digits.isEmpty || !digits.all Char.isDigit then none
  else (some (Nat.ofDigitChars 10 digits 0)).filter (· < UInt64.size)

namespace Given

/-- The options with one more limit, which must not have been given before. -/
def withLimit? (given : Given) (option : LimitOption) (value : List Char) : Option Given := do
  let limit ← limit? value
  match option with
  | .maxNesting => if given.maxNesting.isSome then none else some { given with maxNesting := limit }
  | .maxDepth => if given.maxDepth.isSome then none else some { given with maxDepth := limit }

/-- The options with the expression, which must not have been given before. -/
def withContents? (given : Given) (contents : List Char) : Option Given :=
  if given.contents.isSome then none else some { given with contents := contents }

/-- The calculation that the options ask for, if they agree and name an expression. -/
def request? (given : Given) : Option Request := do
  let contents ← given.contents
  let mode ← match given.encode, given.evaluateEncoded with
    | true, true => none
    | true, false => some .encode
    | false, true => some .evaluateEncoded
    | false, false => some .run
  let default : Limits := {}
  let limits : Limits :=
    ⟨given.maxNesting.getD default.maxNesting, given.maxDepth.getD default.maxDepth⟩
  return .calculate ⟨mode, given.file, limits, contents⟩

end Given

/-- The outcome of reading one argument: reading goes on, or a request ends it. -/
inductive Progress where
  | more (given : Given)
  | done (request : Request)
deriving Repr, DecidableEq

/-- One more flag, which must not have been given before. -/
def Given.withFlag? (given : Given) : Flag → Option Progress
  | .file => if given.file then none else some (.more { given with file := true })
  | .encode => if given.encode then none else some (.more { given with encode := true })
  | .evaluateEncoded =>
      if given.evaluateEncoded then none else some (.more { given with evaluateEncoded := true })
  | .help => some (.done .help)
  | .version => some (.done .version)

/-- The flags of a group of letters. -/
def readLetters? (given : Given) : List Char → Option Progress
  | [] => some (.more given)
  | letter :: rest => do
      let flag ← Flag.all.find? fun flag => flag.letter == letter
      match ← given.withFlag? flag with
      | .more given => readLetters? given rest
      | .done request => return .done request

/-- The arguments after `--`, of which none is an option. -/
def readOperands? (given : Given) : List (List Char) → Option Request
  | [] => given.request?
  | argument :: rest => do readOperands? (← given.withContents? argument) rest

/-- The request that the arguments make, or nothing if they are not well formed. -/
def readArguments? (given : Given) : List (List Char) → Option Request
  | [] => given.request?
  | ['-', '-'] :: rest => readOperands? given rest
  | ('-' :: '-' :: option) :: rest =>
      let name := option.takeWhile (· ≠ '=')
      let value := option.dropWhile (· ≠ '=')
      match Flag.all.find? (·.name == name), LimitOption.all.find? (·.name == name), value with
      | some flag, _, [] =>
          match given.withFlag? flag with
          | some (.more given) => readArguments? given rest
          | some (.done request) => some request
          | none => none
      | _, some limit, _ :: value =>
          match given.withLimit? limit value with
          | some given => readArguments? given rest
          | none => none
      | _, some limit, [] =>
          match rest with
          | value :: rest =>
              match given.withLimit? limit value with
              | some given => readArguments? given rest
              | none => none
          | [] => none
      | _, _, _ => none
  | ('-' :: letter :: letters) :: rest =>
      match readLetters? given (letter :: letters) with
      | some (.more given) => readArguments? given rest
      | some (.done request) => some request
      | none => none
  | argument :: rest =>
      match given.withContents? argument with
      | some given => readArguments? given rest
      | none => none

/-- The request that the arguments of a program make, or nothing if they are not well formed. -/
def request? (arguments : List (List Char)) : Option Request :=
  readArguments? {} arguments

end Calculator.CommandLine
