import Calculator.Expr

/-!
# The encoded form of an expression

An expression is encoded in prefix form: a literal as `n:` and its digits, an
operator as its symbol and its operands between parentheses, separated by commas.

    n:digits    op(a)    op(a,b)    ?:(condition,whenTrue,whenFalse)

`encodeOnto` writes the encoded form before a given text, so that encoding takes
time proportional to its result. The lemmas state each case of `encode` without
it.
-/

set_option autoImplicit false

namespace Calculator

/-- The symbol of a conditional in encoded form. -/
def conditionalSymbol : List Char := ['?', ':']

namespace Expr

/-- The encoded form of an expression, followed by `rest`. -/
def encodeOnto : Expr → List Char → List Char
  | literal digits, rest => 'n' :: ':' :: (digits ++ rest)
  | unary op operand, rest => op.symbol ++ '(' :: operand.encodeOnto (')' :: rest)
  | binary op left right, rest =>
      op.symbol ++ '(' :: left.encodeOnto (',' :: right.encodeOnto (')' :: rest))
  | conditional condition whenTrue whenFalse, rest =>
      conditionalSymbol ++ '(' :: condition.encodeOnto
        (',' :: whenTrue.encodeOnto (',' :: whenFalse.encodeOnto (')' :: rest)))

/-- The encoded form of an expression. -/
def encode (expr : Expr) : List Char :=
  expr.encodeOnto []

theorem encodeOnto_eq_append (expr : Expr) (rest : List Char) :
    expr.encodeOnto rest = expr.encode ++ rest := by
  unfold encode
  induction expr generalizing rest with
  | literal digits => simp [encodeOnto]
  | unary op operand ih =>
      simp only [encodeOnto]
      rw [ih, ih [')']]
      simp
  | binary op left right ihLeft ihRight =>
      simp only [encodeOnto]
      rw [ihRight, ihRight [')'], ihLeft, ihLeft (',' :: (right.encodeOnto [] ++ [')']))]
      simp
  | conditional condition whenTrue whenFalse ihCondition ihTrue ihFalse =>
      simp only [encodeOnto]
      rw [ihFalse, ihFalse [')'], ihTrue, ihTrue (',' :: (whenFalse.encodeOnto [] ++ [')'])),
        ihCondition, ihCondition (',' :: (whenTrue.encodeOnto [] ++
          ',' :: (whenFalse.encodeOnto [] ++ [')'])))]
      simp

theorem encode_literal (digits : List Char) :
    (literal digits).encode = 'n' :: ':' :: digits := by
  simp [encode, encodeOnto]

theorem encode_unary (op : UnaryOperator) (operand : Expr) :
    (unary op operand).encode = op.symbol ++ '(' :: (operand.encode ++ [')']) := by
  rw [encode, encodeOnto, encodeOnto_eq_append]

theorem encode_binary (op : BinaryOperator) (left right : Expr) :
    (binary op left right).encode =
      op.symbol ++ '(' :: (left.encode ++ ',' :: (right.encode ++ [')'])) := by
  rw [encode, encodeOnto, encodeOnto_eq_append, encodeOnto_eq_append]

theorem encode_conditional (condition whenTrue whenFalse : Expr) :
    (conditional condition whenTrue whenFalse).encode =
      conditionalSymbol ++ '(' :: (condition.encode ++
        ',' :: (whenTrue.encode ++ ',' :: (whenFalse.encode ++ [')']))) := by
  rw [encode, encodeOnto, encodeOnto_eq_append, encodeOnto_eq_append, encodeOnto_eq_append]

end Expr

end Calculator
