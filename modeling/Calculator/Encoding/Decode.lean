import Calculator.Encoding.Read
import Calculator.Limits
import Calculator.Traced

/-!
# Decoding an encoded expression

Decoding reads every node of an encoded expression, from the outermost inwards
and from left to right, and checks the digits of every literal. A node more
levels below the root than `Limits.maxDepth` allows is an error that comes before
any other at that node.

Decoding leaves a record of each node that it enters, as evaluation does. None of
these records is shown: `decode` is the outcome alone. They say how much of the
text the decoding has looked at.
-/

set_option autoImplicit false

namespace Calculator

/-- The number that a literal writes. -/
def Value.ofLiteral (digits : List Char) : Except EvalError Value :=
  if Number.isLiteral digits then .ok (.number (Number.ofLiteral digits))
  else .error (.invalidLiteral digits)

namespace Encoding

/-- The tree of an encoded expression whose outermost node is at `depth`, with a record of each
node that is entered. -/
def decodeTraced (limits : Limits) (depth : Nat) (text : List Char) : Traced EvalError Expr := do
  if limits.maxDepth < depth then .fail (.tooDeep limits.maxDepth)
  else
    .log (.entered depth text)
    match _found : read text with
    | .error error => .fail error
    | .ok (.literal digits) =>
        let _ ← .ofExcept (Value.ofLiteral digits)
        return .literal digits
    | .ok (.unary op operand) =>
        let operand ← decodeTraced limits (depth + 1) operand
        return .unary op operand
    | .ok (.binary op left right) =>
        let left ← decodeTraced limits (depth + 1) left
        let right ← decodeTraced limits (depth + 1) right
        return .binary op left right
    | .ok (.conditional condition whenTrue whenFalse) =>
        let condition ← decodeTraced limits (depth + 1) condition
        let whenTrue ← decodeTraced limits (depth + 1) whenTrue
        let whenFalse ← decodeTraced limits (depth + 1) whenFalse
        return .conditional condition whenTrue whenFalse
termination_by text.length
decreasing_by
  all_goals exact length_lt_of_read _found (by simp [Node.operands])

/-- The tree of an encoded expression whose outermost node is at `depth`. -/
def decodeAt (limits : Limits) (depth : Nat) (text : List Char) : Except EvalError Expr :=
  (decodeTraced limits depth text).outcome

/-- The tree of an encoded expression. -/
def decode (limits : Limits) (text : List Char) : Except EvalError Expr :=
  decodeAt limits 1 text

end Encoding

end Calculator
