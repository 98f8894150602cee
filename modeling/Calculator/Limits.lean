/-!
# Limits

Reading and evaluating an expression follow its nesting, so both are bounded.
Each bound is compared with an exact measure: `maxNesting` with the number of
constructs open at once while tokens are read, `maxDepth` with the number of
levels of a tree.
-/

set_option autoImplicit false

namespace Calculator

/-- The bounds under which an expression is read and evaluated. -/
structure Limits where
  /-- How many groups, operands of signs, right operands of `**` and branches may be open at
  once. -/
  maxNesting : Nat := 128
  /-- How many levels a tree may have. -/
  maxDepth : Nat := 512
deriving Repr, DecidableEq

end Calculator
