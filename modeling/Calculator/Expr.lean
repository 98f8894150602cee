import Calculator.Operator

/-!
# Expressions

An expression is a tree of literals, unary and binary operators and
conditionals. A literal keeps the digits that it was written with; whether they
form a number is decided when the literal is evaluated. `Node` is one level of
an expression whose operands may be of any type: trees, or texts that have yet
to be read.
-/

set_option autoImplicit false

namespace Calculator

/-- An expression. -/
inductive Expr where
  | literal (digits : List Char)
  | unary (op : UnaryOperator) (operand : Expr)
  | binary (op : BinaryOperator) (left right : Expr)
  | conditional (condition whenTrue whenFalse : Expr)
deriving Repr, DecidableEq

/-- One level of an expression, with operands of type `α`. -/
inductive Node (α : Type) where
  | literal (digits : List Char)
  | unary (op : UnaryOperator) (operand : α)
  | binary (op : BinaryOperator) (left right : α)
  | conditional (condition whenTrue whenFalse : α)
deriving Repr, DecidableEq

namespace Node

variable {α β : Type}

/-- The operands of a node, from left to right. -/
def operands : Node α → List α
  | literal _ => []
  | unary _ operand => [operand]
  | binary _ left right => [left, right]
  | conditional condition whenTrue whenFalse => [condition, whenTrue, whenFalse]

/-- The node with each operand replaced by its image. -/
def map (f : α → β) : Node α → Node β
  | literal digits => .literal digits
  | unary op operand => .unary op (f operand)
  | binary op left right => .binary op (f left) (f right)
  | conditional condition whenTrue whenFalse =>
      .conditional (f condition) (f whenTrue) (f whenFalse)

end Node

namespace Expr

/-- The number of levels of an expression. A literal has one. -/
def depth : Expr → Nat
  | literal _ => 1
  | unary _ operand => operand.depth + 1
  | binary _ left right => max left.depth right.depth + 1
  | conditional condition whenTrue whenFalse =>
      max (max condition.depth whenTrue.depth) whenFalse.depth + 1

/-- The digits of the literals of an expression, from left to right. -/
def literals : Expr → List (List Char)
  | literal digits => [digits]
  | unary _ operand => operand.literals
  | binary _ left right => left.literals ++ right.literals
  | conditional condition whenTrue whenFalse =>
      condition.literals ++ whenTrue.literals ++ whenFalse.literals

/-- The outermost level of an expression. -/
def node : Expr → Node Expr
  | literal digits => .literal digits
  | unary op operand => .unary op operand
  | binary op left right => .binary op left right
  | conditional condition whenTrue whenFalse => .conditional condition whenTrue whenFalse

/-- An operand has fewer levels than the expression that it belongs to. -/
theorem depth_lt_of_mem_operands {expr operand : Expr}
    (member : operand ∈ expr.node.operands) : operand.depth < expr.depth := by
  cases expr <;>
    simp only [node, Node.operands, List.mem_cons, List.not_mem_nil, or_false] at member
  case unary => subst member; simp [depth]
  case binary => rcases member with rfl | rfl <;> simp only [depth] <;> omega
  case conditional => rcases member with rfl | rfl | rfl <;> simp only [depth] <;> omega

end Expr

end Calculator
