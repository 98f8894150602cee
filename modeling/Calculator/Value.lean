import Calculator.Number.Literal
import Calculator.Number.Positional

/-!
# Values

An expression evaluates to a number or to a truth value. Where a truth value is
wanted a number counts as true unless it is zero or not a number; where a number
is wanted a truth value is an error.
-/

set_option autoImplicit false

namespace Calculator

/-- The result of an evaluation. -/
inductive Value where
  | number (value : Float)
  | bool (value : Bool)
deriving DecidableEq

namespace Value

/-- The value counts as true. -/
def truthy : Value → Bool
  | number x => x != 0 && !x.isNaN
  | bool b => b

/-- The value as results and messages show it. -/
def text : Value → List Char
  | number x => Number.text x
  | bool true => ['t', 'r', 'u', 'e']
  | bool false => ['f', 'a', 'l', 's', 'e']

end Value

end Calculator
