/-!
# The shortest decimal that reads back

A positive double is one point of an interval of reals that all round to it. Of
the decimals in that interval, one with the fewest digits is chosen, and of two
such decimals the nearer one; a decimal that lies exactly between goes to the
larger. All comparisons are between natural numbers.
-/

set_option autoImplicit false

namespace Calculator.Number

/-- The decimal number `digits * 10 ^ exponent`. -/
structure Decimal where
  digits : Nat
  exponent : Int
deriving Repr, DecidableEq

/-- The reals that round to one double: the double itself and its lower and upper ends, each a
multiple of `2 ^ exponent`. -/
structure Interval where
  lower : Nat
  value : Nat
  upper : Nat
  exponent : Int
  /-- The ends themselves round to the double. -/
  closed : Bool
deriving Repr, DecidableEq

/-- The reals that round to `mantissa * 2 ^ exponent`. The gap below a power of two is half as wide
as the gap above, except at the bottom of the range, where doubles lie evenly. A real halfway
between two doubles rounds to the even mantissa. -/
def roundingInterval (mantissa : Nat) (exponent : Int) : Interval where
  lower := if mantissa = Nat.pow 2 52 ∧ -1074 < exponent then 4 * mantissa - 1 else 4 * mantissa - 2
  value := 4 * mantissa
  upper := 4 * mantissa + 2
  exponent := exponent - 2
  closed := mantissa % 2 = 0

/-- The decimal of the interval that is nearest to its value, among the multiples of `10 ^ power`.
Only the two neighbours of the value can be the nearest. -/
def Interval.nearest? (interval : Interval) (power : Int) : Option Decimal :=
  let numerator := Nat.pow 2 interval.exponent.toNat * Nat.pow 10 (-power).toNat
  let denominator := Nat.pow 2 (-interval.exponent).toNat * Nat.pow 10 power.toNat
  let within (digits : Nat) : Bool :=
    let point := digits * denominator
    let lower := interval.lower * numerator
    let upper := interval.upper * numerator
    if interval.closed then lower ≤ point && point ≤ upper else lower < point && point < upper
  let below := interval.value * numerator / denominator
  let past := interval.value * numerator % denominator
  match within below, within (below + 1) with
  | true, true => some ⟨if 2 * past < denominator then below else below + 1, power⟩
  | true, false => some ⟨below, power⟩
  | false, true => some ⟨below + 1, power⟩
  | false, false => none

/-- A power of ten that is larger than `mantissa * 2 ^ exponent`, but not by much. -/
def powerAbove (mantissa : Nat) (exponent : Int) : Int :=
  (mantissa.log2 + 1 + exponent) * 30103 / 100000 + 2

/-- The decimal that `mantissa * 2 ^ exponent` is, with all its digits. -/
def exactDecimal (mantissa : Nat) (exponent : Int) : Decimal :=
  if 0 ≤ exponent then ⟨mantissa * Nat.pow 2 exponent.toNat, 0⟩
  else ⟨mantissa * Nat.pow 5 (-exponent).toNat, exponent⟩

/-- The shortest decimal that reads back as the double `mantissa * 2 ^ exponent`. Seventeen digits
always suffice, so the grids that are tried reach the answer. -/
def shortest (mantissa : Nat) (exponent : Int) : Decimal :=
  let interval := roundingInterval mantissa exponent
  let top := powerAbove mantissa exponent
  ((List.range 24).findSome? fun step : Nat => interval.nearest? (top - step)).getD
    (exactDecimal mantissa exponent)

end Calculator.Number
