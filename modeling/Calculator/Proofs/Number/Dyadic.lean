import Mathlib
import Calculator.Number.Exact

/-!
# Exact operations on doubles

A double has 53 binary digits. A number `k * 2 ^ p` with so few digits is a double, and `dyadic k p`
is the form in which the operations on doubles find it. They compute their results exactly and then
round. Where the exact result again has no more than 53 digits nothing is lost: sums, differences,
products and quotients of such numbers are what they are of numbers (`add_dyadic`, `sub_dyadic`,
`mul_dyadic`, `div_dyadic`).

The operands may be written with different exponents, and results are found with digits to spare. So
the lemmas on rounding start from `k * 2 ^ j` at an exponent `e`, which is the number
`k * 2 ^ (e + j)` (`roundWithAccuracy_exact`, `round_exact`).
-/

set_option autoImplicit false

namespace Calculator.Number

open Float.Model (UnpackedFloat Format)
open Float.Model.UnpackedFloat

/-! ## Binary digits -/

theorem log2_mul_two_pow {k : Nat} (positive : 0 < k) (n : Nat) :
    (k * 2 ^ n).log2 = k.log2 + n := by
  induction n with
  | zero => simp
  | succ n ih =>
      have nonzero : k * 2 ^ n ≠ 0 := by positivity
      rw [Nat.pow_succ', Nat.mul_left_comm, Nat.log2_two_mul nonzero, ih, Nat.add_assoc]

/-- The binary digits of a number times a power of two tell how large it is. -/
theorem log2_add_lt_iff {k : Nat} (positive : 0 < k) (n bits : Nat) :
    k.log2 + n < bits ↔ k * 2 ^ n < 2 ^ bits := by
  rw [← log2_mul_two_pow positive, Nat.log2_lt (by positivity)]

theorem log2_add_log2_le {k l : Nat} (positive : 0 < k) (positive' : 0 < l) :
    k.log2 + l.log2 ≤ (k * l).log2 := by
  rw [Nat.le_log2 (by positivity), Nat.pow_add]
  exact Nat.mul_le_mul (Nat.log2_self_le (by omega)) (Nat.log2_self_le (by omega))

theorem log2_mul_lt {k l : Nat} (positive : 0 < k) (positive' : 0 < l) :
    (k * l).log2 < k.log2 + l.log2 + 2 := by
  rw [Nat.log2_lt (by positivity)]
  have exponent : k.log2 + 1 + (l.log2 + 1) = k.log2 + l.log2 + 2 := by omega
  calc k * l < 2 ^ (k.log2 + 1) * 2 ^ (l.log2 + 1) :=
        Nat.mul_lt_mul'' Nat.lt_log2_self Nat.lt_log2_self
    _ = 2 ^ (k.log2 + l.log2 + 2) := by rw [← Nat.pow_add, exponent]

theorem log2_le_of_lt {k : Nat} (fits : k < 2 ^ 53) : k.log2 ≤ 52 := by
  rcases Nat.eq_zero_or_pos k with rfl | positive
  · decide
  · have := (Nat.log2_lt (Nat.ne_of_gt positive)).mpr fits
    omega

/-! ## Dyadic numbers -/

/-- The number of places by which a significand is filled up to 53 binary digits. -/
def places (k : Nat) : Nat := 52 - k.log2

theorem log2_filled {k : Nat} (positive : 0 < k) (fits : k < 2 ^ 53) :
    (k * 2 ^ places k).log2 = 52 := by
  have := log2_le_of_lt fits
  rw [log2_mul_two_pow positive, places]
  omega

/-- The number `k * 2 ^ p` in the form that doubles have, where `k` has at most 53 binary digits. -/
def dyadic (k : Nat) (p : Int) : UnpackedFloat :=
  if positive : 0 < k then .finite .positive (k * 2 ^ places k) (p - places k) (by positivity)
  else .zero .positive

theorem dyadic_zero (p : Int) : dyadic 0 p = .zero .positive := rfl

theorem dyadic_of_pos {k : Nat} (positive : 0 < k) (p : Int) :
    dyadic k p = .finite .positive (k * 2 ^ places k) (p - places k) (by positivity) :=
  dif_pos positive

/-- The form of a number does not depend on how it is written. -/
theorem dyadic_mul_two_pow {k n : Nat} (fits : k * 2 ^ n < 2 ^ 53) (p : Int) :
    dyadic (k * 2 ^ n) p = dyadic k (p + n) := by
  rcases Nat.eq_zero_or_pos k with rfl | positive
  · rw [Nat.zero_mul, dyadic_zero, dyadic_zero]
  · have filled := log2_le_of_lt fits
    rw [log2_mul_two_pow positive] at filled
    have split : places k = n + places (k * 2 ^ n) := by
      rw [places, places, log2_mul_two_pow positive]
      omega
    rw [dyadic_of_pos positive, dyadic_of_pos (by positivity)]
    congr 1
    · rw [split, Nat.pow_add, Nat.mul_assoc]
    · omega

/-! ## Rounding what needs no rounding -/

theorem exact_shiftRight (m n : Nat) :
    (⟨m * 2 ^ n, false, false⟩ : ExtendedMantissa) >>> n = ⟨m, false, false⟩ := by
  change Nat.repeat ExtendedMantissa.shiftRightOne n _ = _
  induction n generalizing m with
  | zero => simp [Nat.repeat]
  | succ n ih =>
      have regrouped : m * 2 ^ (n + 1) = m * 2 * 2 ^ n := by ring
      rw [Nat.repeat, regrouped, ih]
      simp [ExtendedMantissa.shiftRightOne]

theorem targetExponent_eq {total : Int} (normal : -1021 ≤ total) :
    Format.binary64.targetExponent total = total - 53 := by
  have floor : Format.binary64.minExponent = -1074 := by decide
  have digits : Format.binary64.mantissaBits = 53 := by decide
  rw [Format.targetExponent, floor, digits]
  omega

theorem shiftToTargetExponent_exact {m : Nat} {e target : Int} {n : Nat}
    (aims : Format.binary64.targetExponent (Float.Model.totalExponent (m * 2 ^ n) e) = target)
    (away : (target - e).toNat = n) :
    shiftToTargetExponent Format.binary64 (m * 2 ^ n) e .exact = (⟨m, false, false⟩, e + n) := by
  rw [shiftToTargetExponent, aims, shiftToExponent, away]
  exact Prod.ext (exact_shiftRight m n) rfl

/-- A number with enough binary digits that fits into a double is not rounded. -/
theorem roundWithAccuracy_exact {k j : Nat} {e : Int} (positive : 0 < k) (fits : k < 2 ^ 53)
    (filled : places k ≤ j) (normal : -1022 ≤ k.log2 + (e + j)) :
    roundWithAccuracy Format.binary64 .positive (k * 2 ^ j) e .exact = dyadic k (e + j) := by
  have digits := log2_le_of_lt fits
  obtain ⟨n, rfl⟩ := Nat.exists_eq_add_of_le filled
  have regrouped : k * 2 ^ (places k + n) = k * 2 ^ places k * 2 ^ n := by ring
  have normal' : -1021 ≤ 53 + (e + n) := by
    rw [places] at normal
    omega
  have total (n' : Nat) (e' : Int) : Float.Model.totalExponent (k * 2 ^ places k * 2 ^ n') e' =
      53 + (e' + n') := by
    rw [Float.Model.totalExponent, log2_mul_two_pow (by positivity), log2_filled positive fits]
    omega
  -- The first shift leaves 53 binary digits, and the second has nothing to do.
  have first : shiftToTargetExponent Format.binary64 (k * 2 ^ places k * 2 ^ n) e .exact =
      (⟨k * 2 ^ places k, false, false⟩, e + n) := by
    apply shiftToTargetExponent_exact rfl
    rw [total, targetExponent_eq normal']
    omega
  have second : shiftToTargetExponent Format.binary64 (k * 2 ^ places k) (e + n) .exact =
      (⟨k * 2 ^ places k, false, false⟩, e + n) := by
    have same := total 0 (e + n)
    rw [Nat.pow_zero, Nat.mul_one] at same
    have stays := shiftToTargetExponent_exact (m := k * 2 ^ places k) (e := e + n) (n := 0) rfl (by
      rw [Nat.pow_zero, Nat.mul_one, same, targetExponent_eq (by omega)]
      omega)
    simpa using stays
  rw [regrouped, roundWithAccuracy, first]
  simp only [ExtendedMantissa.roundedMantissa, ExtendedMantissa.accuracy,
    Accuracy.roundToNearestEven, second]
  rw [dif_neg (by positivity), dyadic_of_pos positive]
  congr 1
  omega

/-- The same where the number may have too few binary digits. -/
theorem round_exact {k j : Nat} {e : Int} (positive : 0 < k) (fits : k < 2 ^ 53)
    (normal : -1022 ≤ k.log2 + (e + j)) :
    UnpackedFloat.round Format.binary64 .positive (k * 2 ^ j) e = dyadic k (e + j) := by
  have digits := log2_le_of_lt fits
  have target : Format.binary64.targetExponent (Float.Model.totalExponent (k * 2 ^ j) e) =
      k.log2 + j + e - 52 := by
    rw [Float.Model.totalExponent, log2_mul_two_pow positive, targetExponent_eq (by omega)]
    omega
  rw [UnpackedFloat.round, target, decreaseExponent, Nat.shiftLeft_eq, Nat.mul_assoc, ← Nat.pow_add]
  simp only
  rw [roundWithAccuracy_exact positive fits (by rw [places]; omega) (by omega)]
  congr 1
  omega

theorem normalize_exact {k j : Nat} {e : Int} (fits : k < 2 ^ 53)
    (normal : -1022 ≤ k.log2 + (e + j)) :
    UnpackedFloat.normalize Format.binary64 (k * 2 ^ j : Nat) e .positive = dyadic k (e + j) := by
  rcases Nat.eq_zero_or_pos k with rfl | positive
  · simp [UnpackedFloat.normalize, dyadic_zero]
  · have larger : compare ((k * 2 ^ j : Nat) : Int) 0 = .gt := by
      rw [Int.compare_eq_gt]
      positivity
    rw [UnpackedFloat.normalize, larger]
    exact round_exact positive fits normal

/-! ## Operations that need no rounding -/

/-- Two numbers that are written with one exponent have a smaller one in common in which both are
filled up. -/
theorem exists_common_exponent (k l : Nat) (p : Int) :
    ∃ n : Nat, min (p - places k) (p - places l) = p - n ∧
      (decreaseExponent (k * 2 ^ places k) (p - places k) (p - n)).1 = k * 2 ^ n ∧
      (decreaseExponent (l * 2 ^ places l) (p - places l) (p - n)).1 = l * 2 ^ n := by
  have aligned {k n : Nat} (filled : places k ≤ n) :
      (decreaseExponent (k * 2 ^ places k) (p - places k) (p - n)).1 = k * 2 ^ n := by
    have away : (p - places k - (p - n)).toNat = n - places k := by omega
    rw [decreaseExponent, away, Nat.shiftLeft_eq, Nat.mul_assoc, ← Nat.pow_add,
      Nat.add_sub_of_le filled]
  exact ⟨max (places k) (places l), by omega, aligned (Nat.le_max_left ..),
    aligned (Nat.le_max_right ..)⟩

theorem add_dyadic {k l : Nat} {p : Int} (fits : k + l < 2 ^ 53) (normal : -1022 ≤ p) :
    add Format.binary64 (dyadic k p) (dyadic l p) = dyadic (k + l) p := by
  rcases Nat.eq_zero_or_pos k with rfl | positive
  · rw [Nat.zero_add, dyadic_zero]
    rcases Nat.eq_zero_or_pos l with rfl | positive'
    · rfl
    · rw [dyadic_of_pos positive']
      rfl
  rcases Nat.eq_zero_or_pos l with rfl | positive'
  · rw [Nat.add_zero, dyadic_zero, dyadic_of_pos positive]
    rfl
  obtain ⟨n, smaller, first, second⟩ := exists_common_exponent k l p
  have sum : Sign.positive.apply (k * 2 ^ n : Nat) + Sign.positive.apply (l * 2 ^ n : Nat) =
      (((k + l) * 2 ^ n : Nat) : Int) := by
    simp only [Sign.apply]
    push_cast
    ring
  rw [dyadic_of_pos positive, dyadic_of_pos positive', add, smaller]
  simp only [first, second, sum]
  rw [normalize_exact fits (by omega)]
  congr 1
  omega

theorem sub_dyadic {k l : Nat} {p : Int} (less : l ≤ k) (fits : k < 2 ^ 53) (normal : -1022 ≤ p) :
    sub Format.binary64 (dyadic k p) (dyadic l p) = dyadic (k - l) p := by
  rcases Nat.eq_zero_or_pos l with rfl | positive'
  · rw [Nat.sub_zero, dyadic_zero]
    rcases Nat.eq_zero_or_pos k with rfl | positive
    · rfl
    · rw [dyadic_of_pos positive]
      rfl
  have positive : 0 < k := by omega
  obtain ⟨n, smaller, first, second⟩ := exists_common_exponent k l p
  have difference : Sign.positive.apply (k * 2 ^ n : Nat) - Sign.positive.apply (l * 2 ^ n : Nat) =
      (((k - l) * 2 ^ n : Nat) : Int) := by
    simp only [Sign.apply]
    push_cast [less]
    ring
  rw [dyadic_of_pos positive, dyadic_of_pos positive', sub, smaller]
  simp only [first, second, difference]
  rw [normalize_exact (by omega) (by omega)]
  congr 1
  omega

theorem mul_dyadic {k l : Nat} {p q : Int} (fits : k * l < 2 ^ 53)
    (normal : -1022 ≤ (k * l).log2 + (p + q)) :
    mul Format.binary64 (dyadic k p) (dyadic l q) = dyadic (k * l) (p + q) := by
  rcases Nat.eq_zero_or_pos k with rfl | positive
  · rw [Nat.zero_mul, dyadic_zero]
    rcases Nat.eq_zero_or_pos l with rfl | positive'
    · rfl
    · rw [dyadic_of_pos positive']
      rfl
  rcases Nat.eq_zero_or_pos l with rfl | positive'
  · rw [Nat.mul_zero, dyadic_zero, dyadic_of_pos positive]
    rfl
  have digits := log2_add_log2_le positive positive'
  have digits' := log2_le_of_lt fits
  have product : k * 2 ^ places k * (l * 2 ^ places l) = k * l * 2 ^ (places k + places l) := by
    ring
  rw [dyadic_of_pos positive, dyadic_of_pos positive', mul, product]
  change roundWithAccuracy Format.binary64 .positive _ _ _ = _
  rw [roundWithAccuracy_exact (by positivity) fits (by simp only [places]; omega) (by omega)]
  congr 1
  omega

theorem div_exact {m m' c a b : Nat} {e e' : Int} (positive : 0 < m) (positive' : 0 < m')
    (divides : m * 2 ^ a = c * m' * 2 ^ b) (fits : c < 2 ^ 53)
    (normal : -1021 ≤ c.log2 + (e - e' + b - a)) :
    div Format.binary64 (.finite .positive m e positive) (.finite .positive m' e' positive') =
      dyadic c (e - e' + b - a) := by
  have nonzero : 0 < c := by
    rcases Nat.eq_zero_or_pos c with rfl | nonzero
    · have : 0 < m * 2 ^ a := by positivity
      simp [divides] at this
    · exact nonzero
  have digits : m.log2 + a = (c * m').log2 + b := by
    rw [← log2_mul_two_pow positive, divides, log2_mul_two_pow (by positivity)]
  have lower := log2_add_log2_le nonzero positive'
  have upper := log2_mul_lt nonzero positive'
  have short := log2_le_of_lt fits
  -- The dividend is shifted by so many places that the quotient has all its digits.
  have total : Float.Model.totalExponent m e - Float.Model.totalExponent m' e' =
      m.log2 + e - (m'.log2 + e') := by
    simp only [Float.Model.totalExponent]
    omega
  obtain ⟨n, shifted⟩ : ∃ n : Nat, min (e - e') (m.log2 + e - (m'.log2 + e') - 53) = e - e' - n :=
    ⟨(e - e' - min (e - e') (m.log2 + e - (m'.log2 + e') - 53)).toNat, by omega⟩
  have away : (e - e' - (e - e' - n)).toNat = n := by omega
  have enough : 52 + a ≤ n + b + c.log2 := by omega
  have quotient : m * 2 ^ n = c * 2 ^ (n + b - a) * m' := by
    have scaled : m * 2 ^ n * 2 ^ a = c * 2 ^ (n + b - a) * m' * 2 ^ a := by
      calc m * 2 ^ n * 2 ^ a = m * 2 ^ a * 2 ^ n := by ring
        _ = c * m' * 2 ^ (b + n) := by rw [divides]; ring
        _ = c * m' * (2 ^ (n + b - a) * 2 ^ a) := by
          rw [← Nat.pow_add]
          congr 2
          omega
        _ = c * 2 ^ (n + b - a) * m' * 2 ^ a := by ring
    exact Nat.eq_of_mul_eq_mul_right (by positivity) scaled
  have core : divCore Format.binary64 m e m' e' = (c * 2 ^ (n + b - a), e - e' - n, .exact) := by
    rw [divCore, total, targetExponent_eq (by omega)]
    simp only [shifted, away, Nat.shiftLeft_eq, quotient, Nat.mul_div_cancel _ positive',
      Nat.mul_mod_left, accuracyOfFraction, if_true]
  rw [div, core]
  change roundWithAccuracy Format.binary64 .positive _ _ _ = _
  rw [roundWithAccuracy_exact nonzero fits (by rw [places]; omega) (by omega)]
  congr 1
  omega

theorem div_dyadic {c l : Nat} {p q : Int} (positive : 0 < l) (fits : c * l < 2 ^ 53)
    (normal : -1021 ≤ c.log2 + (p - q)) :
    div Format.binary64 (dyadic (c * l) p) (dyadic l q) = dyadic c (p - q) := by
  rcases Nat.eq_zero_or_pos c with rfl | nonzero
  · rw [Nat.zero_mul, dyadic_zero, dyadic_of_pos positive]
    rfl
  have smaller : c < 2 ^ 53 := Nat.lt_of_le_of_lt (Nat.le_mul_of_pos_right c positive) fits
  rw [dyadic_of_pos (by positivity), dyadic_of_pos positive]
  rw [div_exact (c := c) (a := places l) (b := places (c * l)) _ _ (by ring) smaller (by omega)]
  congr 1
  omega

end Calculator.Number
