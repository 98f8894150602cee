import Calculator.Number.Shortest

/-!
# The text of a number

A number is written with the digits of the shortest decimal that reads back, and
never with an exponent. A whole number has no point, a negative zero keeps its
sign, and the values that are no numbers have names.
-/

set_option autoImplicit false

namespace Calculator.Number

/-- A decimal without an exponent. -/
def Decimal.positional (decimal : Decimal) : List Char :=
  let digits := Nat.toDigits 10 decimal.digits
  if 0 ≤ decimal.exponent then
    digits ++ List.replicate decimal.exponent.toNat '0'
  else
    let places := (-decimal.exponent).toNat
    let padded := List.replicate (places + 1 - digits.length) '0' ++ digits
    let whole := padded.length - places
    padded.take whole ++ '.' :: padded.drop whole

/-- The text of a number, as results and messages show it. -/
def text (x : Float) : List Char :=
  match x.toModel.unpack with
  | .notANumber => ['N', 'a', 'N']
  | .infinity sign => signText sign ++ ['i', 'n', 'f']
  | .zero sign => signText sign ++ ['0']
  | .finite sign mantissa exponent _ => signText sign ++ (shortest mantissa exponent).positional
where
  /-- The sign before a magnitude. -/
  signText : Float.Model.UnpackedFloat.Sign → List Char
    | .negative => ['-']
    | .positive => []

/-- A whole number has no point, and a fraction below one starts with a zero. -/
example : ((Decimal.mk 12 3).positional, (Decimal.mk 12 (-1)).positional,
    (Decimal.mk 12 (-4)).positional) =
    (['1', '2', '0', '0', '0'], ['1', '.', '2'], ['0', '.', '0', '0', '1', '2']) := by
  decide +kernel

end Calculator.Number
