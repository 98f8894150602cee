import Calculator.Encoding
import Calculator.Number.Literal
import Calculator.Text.Blank

/-!
# The grammar of encoded expressions

An encoded expression may be written with blanks around it, around the symbol of
each operator and around each operand, but not between `n:` and the literal that
follows it. With `W` for any run of blanks,

    A ::= W 'n:' literal W
        | W u W '(' A ')' W
        | W b W '(' A ',' A ')' W
        | W '?:' W '(' A ',' A ',' A ')' W

where `u` and `b` are the symbols of the unary and binary operators. The encoded
form that `Expr.encode` writes is the one without blanks.
-/

set_option autoImplicit false

namespace Calculator

/-- A text encodes an expression. -/
inductive Encodes : List Char → Expr → Prop where
  | literal {digits text : List Char} (form : Number.LiteralForm digits)
      (padded : Text.Padded ('n' :: ':' :: digits) text) :
      Encodes text (.literal digits)
  | unary {op : UnaryOperator} {symbol body text : List Char} {operand : Expr}
      (named : Text.Padded op.symbol symbol) (encodesOperand : Encodes body operand)
      (padded : Text.Padded (symbol ++ '(' :: (body ++ [')'])) text) :
      Encodes text (.unary op operand)
  | binary {op : BinaryOperator} {symbol first second text : List Char} {left right : Expr}
      (named : Text.Padded op.symbol symbol) (encodesLeft : Encodes first left)
      (encodesRight : Encodes second right)
      (padded : Text.Padded (symbol ++ '(' :: (first ++ ',' :: (second ++ [')']))) text) :
      Encodes text (.binary op left right)
  | conditional {symbol first second third text : List Char}
      {condition whenTrue whenFalse : Expr}
      (named : Text.Padded conditionalSymbol symbol) (encodesCondition : Encodes first condition)
      (encodesTrue : Encodes second whenTrue) (encodesFalse : Encodes third whenFalse)
      (padded : Text.Padded
        (symbol ++ '(' :: (first ++ ',' :: (second ++ ',' :: (third ++ [')'])))) text) :
      Encodes text (.conditional condition whenTrue whenFalse)

end Calculator
