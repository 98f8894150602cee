/-!
# Exact arithmetic on doubles

Every finite double is a whole number times a power of two. Reading it so gives
the operations whose results involve no rounding: the whole number that a double
stands for, where it stands for one, and the remainder of a truncated division.
Powers of two are doubles themselves, up to the largest.
-/

set_option autoImplicit false

namespace Calculator.Number

open Float.Model (UnpackedFloat Format)

/-- The largest whole number up to which every whole number is a double of its own,
`2 ^ 53 - 1`. -/
def maxSafe : Nat := 9007199254740991

/-- The natural number `mantissa * 2 ^ exponent`, where it is one. -/
def scaled? (mantissa : Nat) (exponent : Int) : Option Nat :=
  if 0 ≤ exponent then some (mantissa * Nat.pow 2 exponent.toNat)
  else if mantissa % Nat.pow 2 (-exponent).toNat = 0 then
    some (mantissa / Nat.pow 2 (-exponent).toNat)
  else none

/-- The natural number that a double stands for, if it is one that is at most `maxSafe`. Both
zeros stand for zero. -/
def safeNatural? (x : Float) : Option Nat :=
  match x.toModel.unpack with
  | .zero _ => some 0
  | .finite .positive mantissa exponent _ =>
      (scaled? mantissa exponent).filter (· ≤ maxSafe)
  | _ => none

/-- The double `2 ^ n`. No finite double is that large if `n` is 1024 or more, and the power is
infinite. -/
def powerOfTwo (n : Nat) : Float :=
  Float.ofNat (Nat.pow 2 (min n 1024))

/-- The remainder of `x` after division by `y` truncated toward zero. It is exact, has the sign
of `x` also where it is zero, and is not a number if `x` is infinite or `y` is zero. -/
def remainder (x y : Float) : Float :=
  match x.toModel.unpack, y.toModel.unpack with
  | .finite sign m p _, .finite _ n q _ =>
      let exponent := min p q
      let rest := m * Nat.pow 2 (p - exponent).toNat % (n * Nat.pow 2 (q - exponent).toNat)
      .ofModel (.pack (UnpackedFloat.normalize Format.binary64 (sign.apply rest) exponent sign))
  | .zero _, .finite .. | .zero _, .infinity _ | .finite .., .infinity _ => x
  | _, _ => .ofModel (.pack .notANumber)

end Calculator.Number
