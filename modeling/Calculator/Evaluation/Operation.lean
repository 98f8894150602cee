import Calculator.Failure
import Calculator.Number.Exact

/-!
# What the operators compute

Each operator as a function of values. Arithmetic and comparison are those of
doubles; division and remainder refuse a zero divisor, and the remainder has the
sign of the dividend. The bitwise operators act on natural numbers of at most
`Number.maxSafe`. The shifts are computed in doubles: a shift to the left
multiplies by a power of two, and a shift to the right takes away the remainder
and divides. The logical operators accept any value.
-/

set_option autoImplicit false

namespace Calculator

/-- The value as a number, for an operator that wants one. -/
def Value.asNumber (operator : List Char) : Value → Except EvalError Float
  | number x => .ok x
  | found => .error (.expectedNumber operator found)

/-- The result of a unary operator. Negation subtracts from zero, so that zero stays positive. -/
def UnaryOperator.apply (op : UnaryOperator) (operand : Value) : Except EvalError Value :=
  match op with
  | plus => do return .number (← operand.asNumber op.symbol)
  | minus => do return .number (0 - (← operand.asNumber op.symbol))
  | not => .ok (.bool (!operand.truthy))

namespace BinaryOperator

/-- The value that the left operand of a logical operator settles without the right one. -/
def settled? (op : BinaryOperator) (left : Value) : Option Value :=
  match op with
  | and => if left.truthy then none else some (.bool false)
  | or => if left.truthy then some (.bool true) else none
  | _ => none

/-- An operand of a bitwise operator as a natural number. -/
def asNatural (op : BinaryOperator) (x : Float) : Except EvalError Nat :=
  match Number.safeNatural? x with
  | some n => .ok n
  | none => .error (.expectedNatural op x)

/-- The number `x`, which stands for `m`, shifted to the left by `n` places. Zero stays zero also
where the power of two is infinite. -/
def shiftedLeft (x : Float) (m n : Nat) : Float :=
  if m = 0 then 0 else x * Number.powerOfTwo n

/-- The number `x` shifted to the right by `n` places. -/
def shiftedRight (x : Float) (n : Nat) : Float :=
  let scale := Number.powerOfTwo n
  (x - Number.remainder x scale) / scale

/-- The result of a binary operator. The left operand is examined before the right one. -/
def apply (op : BinaryOperator) (left right : Value) : Except EvalError Value :=
  match op with
  | or => .ok (.bool (left.truthy || right.truthy))
  | and => .ok (.bool (left.truthy && right.truthy))
  | less => comparison fun x y => x < y
  | lessEqual => comparison fun x y => x ≤ y
  | greater => comparison fun x y => y < x
  | greaterEqual => comparison fun x y => y ≤ x
  | equal => comparison fun x y => x == y
  | notEqual => comparison fun x y => x != y
  | bitOr => bitwise fun _ m n => Float.ofNat (m ||| n)
  | bitXor => bitwise fun _ m n => Float.ofNat (m ^^^ n)
  | bitAnd => bitwise fun _ m n => Float.ofNat (m &&& n)
  | shiftLeft => bitwise shiftedLeft
  | shiftRight => bitwise fun x _ n => shiftedRight x n
  | add => arithmetic fun x y => x + y
  | subtract => arithmetic fun x y => x - y
  | multiply => arithmetic fun x y => x * y
  | divide => division fun x y => x / y
  | modulo => division Number.remainder
  | power => arithmetic Float.pow
where
  /-- A result computed from two numbers. -/
  numbers (compute : Float → Float → Except EvalError Value) : Except EvalError Value := do
    let x ← left.asNumber op.symbol
    let y ← right.asNumber op.symbol
    compute x y
  /-- A truth value computed from two numbers. -/
  comparison (compute : Float → Float → Bool) : Except EvalError Value :=
    numbers fun x y => .ok (.bool (compute x y))
  /-- A number computed from two numbers. -/
  arithmetic (compute : Float → Float → Float) : Except EvalError Value :=
    numbers fun x y => .ok (.number (compute x y))
  /-- A number computed from a dividend and a divisor other than zero. -/
  division (compute : Float → Float → Float) : Except EvalError Value :=
    numbers fun x y => if y == 0 then .error (.divisionByZero op) else .ok (.number (compute x y))
  /-- A number computed from two natural numbers, and from the left one as a double. -/
  bitwise (compute : Float → Nat → Nat → Float) : Except EvalError Value :=
    numbers fun x y => do
      let m ← op.asNatural x
      let n ← op.asNatural y
      return .number (compute x m n)

/-- An operator that is not logical needs both operands. -/
theorem settled?_of_not_isLogical {op : BinaryOperator} (computes : op.isLogical = false)
    (left : Value) : op.settled? left = none := by
  cases op <;> first | rfl | cases computes

theorem isLogical_of_isBitwise {op : BinaryOperator} (bitwise : op.isBitwise = true) :
    op.isLogical = false := by
  cases op <;> first | rfl | cases bitwise

end BinaryOperator

end Calculator
