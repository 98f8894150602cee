import Calculator.Encoding.Decode
import Calculator.Evaluation.Operation
import Calculator.Traced

/-!
# Evaluation

An expression is evaluated one node at a time, from a view of it that shows the
outermost node and leaves the operands as they are. A tree and an encoded text
are two such views, and one evaluation serves both. An operand that a logical
operator or a conditional does not need is never looked at: in an encoded text it
is not even read.

Evaluation enters a node only if its depth is allowed, and records each node that
it enters; a bitwise operator leaves a second record with its result.
-/

set_option autoImplicit false

namespace Calculator

/-- A way to look at an expression of type `α` one node at a time. Operands are smaller than the
expression that they belong to, so that every expression has finitely many nodes. -/
structure View (α : Type) where
  /-- The outermost node. -/
  node : α → Except EvalError (Node α)
  /-- The text that shows the expression in records. -/
  text : α → List Char
  /-- A bound on the number of levels. -/
  size : α → Nat
  size_lt : ∀ {a operand : α} {found : Node α}, node a = .ok found →
    operand ∈ found.operands → size operand < size a

/-- The view of a tree: its nodes are at hand, and its text is its encoded form. -/
def View.tree : View Expr where
  node expr := .ok expr.node
  text := Expr.encode
  size := Expr.depth
  size_lt found member := by
    cases found
    exact Expr.depth_lt_of_mem_operands member

/-- The view of an encoded text: a node is read when it is looked at. -/
def View.encoded : View (List Char) where
  node := Encoding.read
  text := id
  size := List.length
  size_lt := Encoding.length_lt_of_read

variable {α : Type}

/-- The value of the expression `a`, which is at `depth` in the whole expression. -/
def evaluateAt (view : View α) (limits : Limits) (depth : Nat) (a : α) :
    Traced EvalError Value := do
  if limits.maxDepth < depth then .fail (.tooDeep limits.maxDepth)
  else
    .log (.entered depth (view.text a))
    match _found : view.node a with
    | .error error => .fail error
    | .ok (.literal digits) => .ofExcept (Value.ofLiteral digits)
    | .ok (.unary op operand) =>
        let operand ← evaluateAt view limits (depth + 1) operand
        .ofExcept (op.apply operand)
    | .ok (.binary op left right) =>
        let left ← evaluateAt view limits (depth + 1) left
        match op.settled? left with
        | some result => return result
        | none =>
            let right ← evaluateAt view limits (depth + 1) right
            let result ← .ofExcept (op.apply left right)
            if op.isBitwise then .log (.combined op left right result)
            return result
    | .ok (.conditional condition whenTrue whenFalse) =>
        let condition ← evaluateAt view limits (depth + 1) condition
        if condition.truthy then evaluateAt view limits (depth + 1) whenTrue
        else evaluateAt view limits (depth + 1) whenFalse
termination_by view.size a
decreasing_by
  all_goals exact view.size_lt _found (by simp [Node.operands])

/-- The value of an expression. -/
def evaluate (limits : Limits) (expr : Expr) : Traced EvalError Value :=
  evaluateAt .tree limits 1 expr

/-- The value of an encoded expression. -/
def evaluateEncoded (limits : Limits) (text : List Char) : Traced EvalError Value :=
  evaluateAt .encoded limits 1 text

end Calculator
