/-!
# Operators

The operators of expressions, their symbols and their classes. An operator has
one symbol, which source text and encoded text share; `+` and `-` are symbols of
a unary and of a binary operator. `ofSymbol?` finds the operator of a symbol.
-/

set_option autoImplicit false

namespace Calculator

/-- An operator with one operand. `not` occurs in encoded expressions only: source text has no
form for it. -/
inductive UnaryOperator where
  | plus
  | minus
  | not
deriving Repr, DecidableEq

/-- An operator with two operands, listed from the loosest to the tightest. -/
inductive BinaryOperator where
  | or
  | and
  | less
  | lessEqual
  | greater
  | greaterEqual
  | equal
  | notEqual
  | bitOr
  | bitXor
  | bitAnd
  | shiftLeft
  | shiftRight
  | add
  | subtract
  | multiply
  | divide
  | modulo
  | power
deriving Repr, DecidableEq

namespace UnaryOperator

/-- Every unary operator. -/
def all : List UnaryOperator := [.plus, .minus, .not]

/-- The operator as it is written. -/
def symbol : UnaryOperator → List Char
  | plus => ['+']
  | minus => ['-']
  | not => ['!']

/-- The unary operator that is written so, if there is one. -/
def ofSymbol? (symbol : List Char) : Option UnaryOperator :=
  all.find? fun op => op.symbol == symbol

theorem ofSymbol?_symbol (op : UnaryOperator) : ofSymbol? op.symbol = some op := by
  cases op <;> decide

theorem symbol_of_ofSymbol? {symbol : List Char} {op : UnaryOperator}
    (found : ofSymbol? symbol = some op) : op.symbol = symbol := by
  simpa using List.find?_some found

end UnaryOperator

namespace BinaryOperator

/-- Every binary operator. -/
def all : List BinaryOperator :=
  [.or, .and, .less, .lessEqual, .greater, .greaterEqual, .equal, .notEqual, .bitOr, .bitXor,
   .bitAnd, .shiftLeft, .shiftRight, .add, .subtract, .multiply, .divide, .modulo, .power]

/-- The operator as it is written. -/
def symbol : BinaryOperator → List Char
  | or => ['|', '|']
  | and => ['&', '&']
  | less => ['<']
  | lessEqual => ['<', '=']
  | greater => ['>']
  | greaterEqual => ['>', '=']
  | equal => ['=', '=']
  | notEqual => ['!', '=']
  | bitOr => ['|']
  | bitXor => ['^']
  | bitAnd => ['&']
  | shiftLeft => ['<', '<']
  | shiftRight => ['>', '>']
  | add => ['+']
  | subtract => ['-']
  | multiply => ['*']
  | divide => ['/']
  | modulo => ['%']
  | power => ['*', '*']

/-- The binary operator that is written so, if there is one. -/
def ofSymbol? (symbol : List Char) : Option BinaryOperator :=
  all.find? fun op => op.symbol == symbol

/-- The operator compares two numbers. -/
def isComparison : BinaryOperator → Bool
  | less | lessEqual | greater | greaterEqual | equal | notEqual => true
  | _ => false

/-- The operator acts on the bits of two natural numbers. -/
def isBitwise : BinaryOperator → Bool
  | bitOr | bitXor | bitAnd | shiftLeft | shiftRight => true
  | _ => false

/-- The operator may be settled by its left operand alone. -/
def isLogical : BinaryOperator → Bool
  | or | and => true
  | _ => false

/-- How loosely the operator binds: the operands of an operator of rank `r + 1` are chains of
operators of rank `r`. -/
def rank : BinaryOperator → Nat
  | power => 0
  | multiply | divide | modulo => 1
  | add | subtract => 2
  | shiftLeft | shiftRight => 3
  | bitAnd => 4
  | bitXor => 5
  | bitOr => 6
  | less | lessEqual | greater | greaterEqual | equal | notEqual => 7
  | and => 8
  | or => 9

/-- The rank of the loosest operator. -/
def loosestRank : Nat := 9

theorem rank_le_loosestRank (op : BinaryOperator) : op.rank ≤ loosestRank := by
  cases op <;> decide

theorem ofSymbol?_symbol (op : BinaryOperator) : ofSymbol? op.symbol = some op := by
  cases op <;> decide

theorem symbol_of_ofSymbol? {symbol : List Char} {op : BinaryOperator}
    (found : ofSymbol? symbol = some op) : op.symbol = symbol := by
  simpa using List.find?_some found

end BinaryOperator

end Calculator
