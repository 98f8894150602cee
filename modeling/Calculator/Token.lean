import Calculator.Operator

/-!
# Tokens

Source text is a sequence of tokens: number literals, operators, the two marks of
a conditional, and parentheses. A token other than a number is one of finitely
many symbols. A token of source text is kept together with the place where it
starts, counted in bytes of UTF-8.
-/

set_option autoImplicit false

namespace Calculator

/-- A token. The operator of `+` and `-` is the binary one; before an operand the parser reads
them as signs. -/
inductive Token where
  | number (digits : List Char)
  | operator (op : BinaryOperator)
  | question
  | colon
  | openParen
  | closeParen
deriving Repr, DecidableEq

/-- A token and the place where it starts. -/
structure Located where
  token : Token
  position : Nat
deriving Repr, DecidableEq

namespace Token

/-- The token as it is written. -/
def text : Token → List Char
  | number digits => digits
  | operator op => op.symbol
  | question => ['?']
  | colon => [':']
  | openParen => ['(']
  | closeParen => [')']

/-- Every token that is not a number. -/
def symbols : List Token :=
  BinaryOperator.all.map operator ++ [.question, .colon, .openParen, .closeParen]

/-- The token that is no number and is written so, if there is one. -/
def ofSymbol? (symbol : List Char) : Option Token :=
  symbols.find? fun token => token.text == symbol

end Token

end Calculator
