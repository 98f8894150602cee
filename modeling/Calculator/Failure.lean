import Calculator.Text.Quoted
import Calculator.Token
import Calculator.Value

/-!
# Failures

Each stage of a calculation has its own causes of failure: reading tokens
(`ScanError`), reading an expression (`ParseError`) and evaluating it
(`EvalError`). A cause carries what its message names, and the wording is in
`message` alone. Places are counted in bytes of UTF-8. `Failure` is a failure of
any stage; its message begins with the name of the stage.
-/

set_option autoImplicit false

namespace Calculator

/-- Why source text does not consist of tokens. -/
inductive ScanError where
  /-- No token starts with the character. -/
  | unrecognized (character : Char) (position : Nat)
  /-- A run of digits and points that is no literal. -/
  | malformedNumber (literal : List Char) (position : Nat)
  /-- An `=` or `!` without the `=` that would complete it. -/
  | incompleteOperator (character : Char) (position : Nat)
  /-- A literal that the end of the text cuts off after its point. -/
  | unfinishedNumber (literal : List Char) (position : Nat)
deriving Repr, DecidableEq

/-- Why a sequence of tokens is not an expression. -/
inductive ParseError where
  /-- A token that cannot start an operand stands where an operand must. -/
  | expectedOperand (found : Token) (position : Nat)
  /-- The tokens end where an operand must stand. -/
  | unexpectedEnd
  /-- The parenthesis opened at the place is not closed. -/
  | unclosedParenthesis (opened : Nat)
  /-- The conditional whose `?` is at the place has no `:`. -/
  | missingColon (question : Nat)
  /-- A token follows a complete expression. -/
  | trailingInput (found : Token) (position : Nat)
  /-- Too many constructs are open at once. -/
  | nestingTooDeep (limit : Nat)
  /-- The expression has too many levels. -/
  | treeTooDeep (limit : Nat)
deriving Repr, DecidableEq

/-- What is wrong with the form of an encoded expression. -/
inductive Malformation where
  | notApplication
  | unclosed
  | unbalanced
  | emptyOperand
deriving Repr, DecidableEq

/-- Why an expression has no value. -/
inductive EvalError where
  /-- A text that is no encoded expression. -/
  | malformed (text : List Char) (reason : Malformation)
  /-- A literal that does not write a number. -/
  | invalidLiteral (digits : List Char)
  /-- A symbol that is no operator's. -/
  | unknownOperator (symbol : List Char)
  /-- An operator with a number of operands that it does not accept. -/
  | wrongArity (symbol : List Char) (accepted : List Nat) (found : Nat)
  | divisionByZero (op : BinaryOperator)
  /-- A truth value where a number is wanted. -/
  | expectedNumber (operator : List Char) (found : Value)
  /-- An operand of a bitwise operator that is no natural number of at most `Number.maxSafe`. -/
  | expectedNatural (op : BinaryOperator) (found : Float)
  /-- An operand more levels below the root than allowed. -/
  | tooDeep (limit : Nat)
deriving DecidableEq

/-- A failure of any stage. -/
inductive Failure where
  | scan (error : ScanError)
  | parse (error : ParseError)
  | eval (error : EvalError)
deriving DecidableEq

/-! ## Wording -/

/-- A text as the string that shows it. -/
private def shown (text : List Char) : String :=
  String.ofList text

/-- A text as a message quotes it. -/
private def quoted (text : List Char) : String :=
  String.ofList (Text.quote text)

/-- The wording of a failure to read tokens. -/
def ScanError.message : ScanError → String
  | unrecognized character position =>
      let character := String.ofList (Text.quoteChar character)
      s!"unrecognized character {character} at position {position}"
  | malformedNumber literal position =>
      s!"malformed number literal {quoted literal} at position {position}"
  | incompleteOperator character position =>
      s!"incomplete operator '{character}' at position {position}, expected '{character}='"
  | unfinishedNumber literal position =>
      s!"unexpected end of input in {quoted literal} at position {position}"

/-- The wording of a failure to read an expression. -/
def ParseError.message : ParseError → String
  | expectedOperand found position =>
      s!"expected an operand at position {position}, found '{shown found.text}'"
  | unexpectedEnd => "unexpected end of input"
  | unclosedParenthesis opened =>
      s!"expected ')' to close the parenthesis opened at position {opened}"
  | missingColon question =>
      s!"expected ':' for the conditional started at position {question}"
  | trailingInput found position =>
      s!"unexpected trailing input '{shown found.text}' at position {position}"
  | nestingTooDeep limit => s!"expression nesting exceeds the limit of {limit}"
  | treeTooDeep limit => s!"expression tree depth exceeds the limit of {limit}"

/-- The wording of what is wrong with an encoded expression. -/
def Malformation.message : Malformation → String
  | notApplication => "expected a literal or an operator application"
  | unclosed => "missing closing parenthesis"
  | unbalanced => "unbalanced parentheses"
  | emptyOperand => "empty operand"

/-- The wording of a failure to evaluate. -/
def EvalError.message : EvalError → String
  | malformed text reason => s!"malformed AST {quoted text}: {reason.message}"
  | invalidLiteral digits => s!"invalid number literal {quoted digits}"
  | unknownOperator symbol => s!"unknown operator {quoted symbol}"
  | wrongArity symbol accepted found =>
      let counts := " or ".intercalate (accepted.map toString)
      s!"operator '{shown symbol}' takes {counts} operand(s), found {found}"
  | divisionByZero op => s!"division by zero in '{shown op.symbol}'"
  | expectedNumber operator found =>
      s!"operator '{shown operator}' expects a number, found {shown found.text}"
  | expectedNatural op found =>
      let found := shown (Number.text found)
      s!"operator '{shown op.symbol}' expects non-negative integers, found {found}"
  | tooDeep limit => s!"evaluation depth exceeds the limit of {limit}"

/-- The wording of a failure, which begins with the stage that failed. -/
def Failure.message : Failure → String
  | scan error => "lex error: " ++ error.message
  | parse error => "parse error: " ++ error.message
  | eval error => "eval error: " ++ error.message

end Calculator
