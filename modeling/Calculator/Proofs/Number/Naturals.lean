import Calculator.Proofs.Number.Dyadic

/-!
# Natural numbers as doubles

Every natural number of at most `maxSafe` is a double (`safeNatural?_ofNat`), and a literal that
writes it is read as that double (`ofScientific_eq_ofNat`). Sums and differences of such doubles,
remainders after division by a power of two and quotients that are natural numbers are the doubles
of the results, as long as these are no larger.

What the operations compute with is not what is stored. A double is unpacked for each operation, and
the result is packed again. For a number in the range of doubles nothing changes on the way
(`unpack_double`), and a number beyond it becomes infinite (`double_of_large`).
-/

set_option autoImplicit false

namespace Calculator.Number

open Float.Model (UnpackedFloat Format)
open Float.Model.UnpackedFloat

/-! ## The bits of a double -/

/-- The leading digit of a significand, which the bits leave out, comes back. -/
theorem toNat_implicit_append {m : Nat} (filled : m.log2 = 52) (positive : 0 < m) :
    (1#1 ++ BitVec.ofNat 52 m).toNat = m := by
  obtain ⟨lower, upper⟩ := (Nat.log2_eq_iff (by omega)).mp filled
  have below : m % 2 ^ 52 < 2 ^ 52 := Nat.mod_lt _ (by positivity)
  rw [BitVec.toNat_append, BitVec.toNat_ofNat, BitVec.toNat_ofNat,
    ← Nat.shiftLeft_add_eq_or_of_lt below, Nat.shiftLeft_eq]
  omega

theorem pack_finite {m : Nat} {e : Int} (positive : 0 < m) (filled : m.log2 = 52)
    (small : e ≤ 971) :
    pack Format.binary64 (.finite .positive m e positive) =
      packComponents Format.binary64 .positive (BitVec.ofNat 11 (e + 1075).toNat)
        (BitVec.ofNat 52 m) := by
  have bias : Format.binary64.exponentBias = 1023 := by decide
  have digits : Format.binary64.mantissaBits = 53 := by decide
  have biased : (e + (1023 : Nat) + (52 : Nat)).toNat = (e + 1075).toNat := by omega
  simp only [pack, bias, digits, filled, biased]
  rw [if_neg (by omega)]
  simp

theorem pack_finite_of_large {m : Nat} {e : Int} (positive : 0 < m) (large : 971 < e) :
    pack Format.binary64 (.finite .positive m e positive) =
      pack Format.binary64 (.infinity .positive) := by
  have bias : Format.binary64.exponentBias = 1023 := by decide
  simp only [pack, bias]
  rw [if_pos (by omega)]

theorem unpack_pack_finite {m : Nat} {e : Int} (positive : 0 < m) (filled : m.log2 = 52)
    (small : e ≤ 971) (normal : -1074 ≤ e) :
    unpack Format.binary64 (pack Format.binary64 (.finite .positive m e positive)) =
      .finite .positive m e positive := by
  have bias : Format.binary64.exponentBias = 1023 := by decide
  rw [pack_finite positive filled small, unpack]
  simp only [unpackMantissa_packComponents, unpackExponent_packComponents,
    unpackSign_packComponents, Sign.ofBitVec_toBitVec, bias]
  have stored : (BitVec.ofNat 11 (e + 1075).toNat).toNat = (e + 1075).toNat := by
    rw [BitVec.toNat_ofNat]
    omega
  have below : BitVec.ofNat 11 (e + 1075).toNat ≠ -1#11 := by
    intro same
    have : (-1#11 : BitVec 11).toNat = 2047 := by decide
    rw [← same, stored] at this
    omega
  have above : BitVec.ofNat 11 (e + 1075).toNat ≠ 0#11 := by
    intro same
    have : (0#11 : BitVec 11).toNat = 0 := by decide
    rw [← same, stored] at this
    omega
  rw [if_neg below, if_neg above]
  congr 1
  · exact toNat_implicit_append filled positive
  · rw [stored]
    omega

/-! ## Doubles -/

/-- The number `k * 2 ^ p` is a double: it has at most 53 binary digits, and it is neither too large
nor too small to be written with all of them. -/
structure InRange (k : Nat) (p : Int) : Prop where
  fits : k < 2 ^ 53
  normal : -1022 ≤ k.log2 + p
  small : k.log2 + p ≤ 1023

theorem InRange.natural {n : Nat} (fits : n < 2 ^ 53) : InRange n 0 := by
  have digits := log2_le_of_lt fits
  exact ⟨fits, by omega, by omega⟩

/-- The double of the number `k * 2 ^ p`, which is infinite if the number is too large. -/
def double (k : Nat) (p : Int) : Float :=
  .ofModel (.pack (dyadic k p))

/-- The infinite double. -/
def infinite : Float :=
  .ofModel (.pack (.infinity .positive))

theorem unpack_infinite : infinite.toModel.unpack = .infinity .positive := rfl

theorem unpack_double {k : Nat} {p : Int} (range : InRange k p) :
    (double k p).toModel.unpack = dyadic k p := by
  obtain ⟨fits, normal, small⟩ := range
  change unpack Format.binary64 (pack Format.binary64 (dyadic k p)) = _
  rcases Nat.eq_zero_or_pos k with rfl | positive
  · exact unpack_packedZero
  · have digits := log2_le_of_lt fits
    rw [dyadic_of_pos positive]
    exact unpack_pack_finite (by positivity) (log2_filled positive fits)
      (by rw [places]; omega) (by rw [places]; omega)

theorem double_of_large {k : Nat} {p : Int} (positive : 0 < k) (fits : k < 2 ^ 53)
    (large : 1024 ≤ k.log2 + p) : double k p = infinite := by
  have digits := log2_le_of_lt fits
  have same := pack_finite_of_large (m := k * 2 ^ places k) (e := p - places k) (by positivity)
    (by rw [places]; omega)
  simp only [double, infinite, dyadic_of_pos positive, Float.Model.pack, same]

theorem double_mul_two_pow {k n : Nat} (fits : k * 2 ^ n < 2 ^ 53) (p : Int) :
    double (k * 2 ^ n) p = double k (p + n) := by
  rw [double, dyadic_mul_two_pow fits, double]

/-! ### Arithmetic -/

section Arithmetic

variable {x y : Float} {k l : Nat} {p q : Int}

theorem add_eq (x y : Float) :
    x + y = .ofModel (.pack (add Format.binary64 x.toModel.unpack y.toModel.unpack)) := rfl

theorem sub_eq (x y : Float) :
    x - y = .ofModel (.pack (sub Format.binary64 x.toModel.unpack y.toModel.unpack)) := rfl

theorem mul_eq (x y : Float) :
    x * y = .ofModel (.pack (mul Format.binary64 x.toModel.unpack y.toModel.unpack)) := rfl

theorem div_eq (x y : Float) :
    x / y = .ofModel (.pack (div Format.binary64 x.toModel.unpack y.toModel.unpack)) := rfl

theorem mul_double (range : InRange k p) (range' : InRange l q) (fits : k * l < 2 ^ 53)
    (normal : -1022 ≤ (k * l).log2 + (p + q)) :
    double k p * double l q = double (k * l) (p + q) := by
  rw [mul_eq, unpack_double range, unpack_double range', mul_dyadic fits normal, double]

theorem div_double (range : InRange (k * l) p) (range' : InRange l q) (positive : 0 < l)
    (normal : -1021 ≤ k.log2 + (p - q)) :
    double (k * l) p / double l q = double k (p - q) := by
  rw [div_eq, unpack_double range, unpack_double range', div_dyadic positive range.fits normal,
    double]

end Arithmetic

/-! ## Natural numbers -/

theorem toFloat_eq_double {n : Nat} (fits : n < 2 ^ 53) : n.toUInt64.toFloat = double n 0 := by
  have whole : n.toUInt64.toNat = n := by
    rw [Nat.toUInt64_eq, UInt64.toNat_ofNat']
    omega
  have exact := normalize_exact (j := 0) (e := 0) fits (by omega)
  rw [Nat.pow_zero, Nat.mul_one] at exact
  change Float.ofModel
    (.pack (UnpackedFloat.normalize Format.binary64 (n.toUInt64.toNat : Int) 0 .positive)) = _
  rw [whole, exact, double]
  rfl

/-- The powers of ten that are doubles are kept in a table. -/
theorem powersOfTen_eq_double : ∀ e : Fin Float.exactlyRepresentablePowersOfTen.size,
    Float.exactlyRepresentablePowersOfTen[e.1] = double (5 ^ e.1) e.1 := by
  decide +kernel

theorem inRange_powerOfTen {e : Nat} (listed : e ≤ 22) : InRange (5 ^ e) e := by
  have below : 5 ^ e ≤ 5 ^ 22 := Nat.pow_le_pow_right (by decide) listed
  have fits : 5 ^ e < 2 ^ 53 := Nat.lt_of_le_of_lt below (by decide)
  have digits := log2_le_of_lt fits
  exact ⟨fits, by omega, by omega⟩

/-- A natural number with at most 53 binary digits is a double. -/
theorem ofNat_eq_double {n : Nat} (fits : n < 2 ^ 53) : Float.ofNat n = double n 0 := by
  unfold Float.ofNat
  change Float.ofScientific n false 0 = _
  rw [Float.ofScientific, dif_pos ⟨fits, by decide⟩]
  simp only [Bool.false_eq_true, if_false]
  rw [powersOfTen_eq_double ⟨0, by decide⟩, toFloat_eq_double fits]
  have whole := InRange.natural fits
  have product := mul_double whole (inRange_powerOfTen (Nat.zero_le 22)) (by simpa using fits)
    (by simp)
  simpa using product

/-- So is a multiple of a power of two with at most 53 significant binary digits, unless it is too
large. -/
theorem ofNat_mul_two_pow {k : Nat} (fits : k < 2 ^ 53) (n : Nat) :
    Float.ofNat (k * 2 ^ n) = double k n := by
  by_cases small : k * 2 ^ n < 2 ^ 53
  · rw [ofNat_eq_double small, double_mul_two_pow small, Int.zero_add]
  rcases Nat.eq_zero_or_pos k with rfl | positive
  · simp at small
  have nonzero : k * 2 ^ n ≠ 0 := by positivity
  unfold Float.ofNat
  change Float.ofScientific _ false 0 = _
  rw [Float.ofScientific, dif_neg (by omega)]
  have digits : Format.binary64.mantissaBits = 53 := by decide
  have product : (k * 2 ^ n) <<< 53 * 10 ^ (0 : Int).toNat = k * 2 ^ (n + 53) := by
    rw [Nat.shiftLeft_eq, Int.toNat_zero, Nat.pow_zero, Nat.mul_one, Nat.mul_assoc, ← Nat.pow_add]
  have value : UnpackedFloat.ofScientific Format.binary64 (k * 2 ^ n) 0 = dyadic k n := by
    have bits : (2 : Int) ^ Format.binary64.exponentBits = 2048 := by decide
    rw [UnpackedFloat.ofScientific, dif_neg nonzero, bits, if_neg (by decide),
      if_neg (by omega), if_pos (by decide), mul]
    have same : Sign.positive * Sign.positive = .positive := rfl
    have shifted : -((53 : Nat) : Int) + 0 = -53 := by decide
    have rounded := roundWithAccuracy_exact (j := n + 53) (e := -53) positive fits
      (by rw [places]; omega) (by omega)
    have exponent : -53 + ((n + 53 : Nat) : Int) = n := by omega
    simp only [digits, product, same, shifted, rounded, exponent]
  simp only [Bool.false_eq_true, if_false]
  change Float.ofModel (.pack (UnpackedFloat.ofScientific Format.binary64 (k * 2 ^ n) 0)) = _
  rw [value, double]

section Naturals

variable {m n : Nat}

theorem ofNat_add_ofNat (fits : m + n < 2 ^ 53) :
    Float.ofNat m + Float.ofNat n = Float.ofNat (m + n) := by
  rw [ofNat_eq_double fits, ofNat_eq_double (by omega : m < 2 ^ 53),
    ofNat_eq_double (by omega : n < 2 ^ 53), add_eq, unpack_double (.natural (by omega)),
    unpack_double (.natural (by omega)), add_dyadic fits (by decide), double]

theorem ofNat_sub_ofNat (less : n ≤ m) (fits : m < 2 ^ 53) :
    Float.ofNat m - Float.ofNat n = Float.ofNat (m - n) := by
  rw [ofNat_eq_double fits, ofNat_eq_double (by omega : n < 2 ^ 53),
    ofNat_eq_double (by omega : m - n < 2 ^ 53), sub_eq, unpack_double (.natural fits),
    unpack_double (.natural (by omega)), sub_dyadic less fits (by decide), double]

theorem ofNat_beq_ofNat (fits : n < 2 ^ 53) : (Float.ofNat n == Float.ofNat n) = true := by
  change UnpackedFloat.beq (Float.ofNat n).toModel.unpack (Float.ofNat n).toModel.unpack = true
  rw [ofNat_eq_double fits, unpack_double (.natural fits), UnpackedFloat.beq]
  rcases Nat.eq_zero_or_pos n with rfl | positive
  · rfl
  · rw [dyadic_of_pos positive]
    simp [UnpackedFloat.compare]

/-! ### The number of a double -/

/-- The natural number that a double stands for, if it is one, however large. -/
def natural? (x : Float) : Option Nat :=
  match x.toModel.unpack with
  | .zero _ => some 0
  | .finite .positive mantissa exponent _ => scaled? mantissa exponent
  | _ => none

/-- A safe natural number is one that is not too large. -/
theorem safeNatural?_eq (x : Float) : safeNatural? x = (natural? x).filter (· ≤ maxSafe) := by
  rw [safeNatural?, natural?]
  cases x.toModel.unpack with
  | notANumber | infinity sign | zero sign => rfl
  | finite sign mantissa exponent positive => cases sign <;> rfl

theorem scaled?_filled (k n : Nat) : scaled? (k * 2 ^ places k) (n - places k) =
    some (k * 2 ^ n) := by
  rw [scaled?]
  split
  · have whole : k * 2 ^ places k * 2 ^ ((n : Int) - places k).toNat = k * 2 ^ n := by
      rw [Nat.mul_assoc, ← Nat.pow_add]
      congr 2
      omega
    rw [Nat.pow_eq, whole]
  · have split : places k = n + (-((n : Int) - places k)).toNat := by omega
    have whole : k * 2 ^ places k = k * 2 ^ n * 2 ^ (-((n : Int) - places k)).toNat := by
      rw [Nat.mul_assoc, ← Nat.pow_add, ← split]
    rw [Nat.pow_eq, whole, if_pos (Nat.mul_mod_left ..), Nat.mul_div_cancel _ (by positivity)]

/-- The double of a natural number in the range of doubles stands for this number. -/
theorem natural?_double {k n : Nat} (range : InRange k n) :
    natural? (double k n) = some (k * 2 ^ n) := by
  rw [natural?, unpack_double range]
  rcases Nat.eq_zero_or_pos k with rfl | positive
  · simp [dyadic_zero]
  · rw [dyadic_of_pos positive]
    exact scaled?_filled k n

theorem natural?_infinite : natural? infinite = none := by
  rw [natural?, unpack_infinite]

theorem safeNatural?_ofNat (fits : n ≤ maxSafe) : safeNatural? (Float.ofNat n) = some n := by
  have fits' : n < 2 ^ 53 := Nat.lt_of_le_of_lt fits (by decide)
  have whole := natural?_double (n := 0) (.natural fits')
  rw [Nat.pow_zero, Nat.mul_one] at whole
  rw [ofNat_eq_double fits', safeNatural?_eq]
  change (natural? (double n (0 : Nat))).filter _ = _
  rw [whole]
  exact Option.filter_eq_some_iff.mpr ⟨rfl, by simpa using fits⟩

/-! ### Powers of two -/

theorem powerOfTwo_eq_double (small : n ≤ 1024) : powerOfTwo n = double 1 n := by
  have same := ofNat_mul_two_pow (by decide : 1 < 2 ^ 53) n
  rw [Nat.one_mul] at same
  rw [powerOfTwo, Nat.min_eq_left small, Nat.pow_eq, same]

theorem powerOfTwo_of_large (large : 1024 ≤ n) : powerOfTwo n = infinite := by
  have same : powerOfTwo n = powerOfTwo 1024 := by
    rw [powerOfTwo, powerOfTwo, Nat.min_eq_right large, Nat.min_self]
  rw [same, powerOfTwo_eq_double (Nat.le_refl _)]
  exact double_of_large (by decide) (by decide) (by decide)

theorem mul_infinite {m : Nat} (positive : 0 < m) (fits : m < 2 ^ 53) :
    Float.ofNat m * infinite = infinite := by
  rw [mul_eq, unpack_infinite, ofNat_eq_double fits, unpack_double (.natural fits),
    dyadic_of_pos positive]
  rfl

theorem inRange_powerOfTwo (small : n ≤ 1023) : InRange 1 n := by
  have digits : Nat.log2 1 = 0 := by decide
  exact ⟨by decide, by omega, by omega⟩

/-- A product with a power of two is not rounded, and infinite if it is too large. -/
theorem ofNat_mul_powerOfTwo (positive : 0 < m) (fits : m < 2 ^ 53) (n : Nat) :
    Float.ofNat m * powerOfTwo n = Float.ofNat (m * 2 ^ n) := by
  rw [ofNat_mul_two_pow fits]
  by_cases small : n ≤ 1023
  · have product := mul_double (.natural fits) (inRange_powerOfTwo small) (by omega) (by omega)
    rwa [Nat.mul_one, Int.zero_add, ← ofNat_eq_double fits, ← powerOfTwo_eq_double (by omega)]
      at product
  · rw [powerOfTwo_of_large (by omega), mul_infinite positive fits,
      double_of_large positive fits (by omega)]

/-- The double of a natural number with at most 53 significant binary digits stands for it, unless
the number is too large. -/
theorem natural?_ofNat_mul_two_pow (fits : m < 2 ^ 53) (small : m * 2 ^ n < 2 ^ 1024) :
    natural? (Float.ofNat (m * 2 ^ n)) = some (m * 2 ^ n) := by
  rcases Nat.eq_zero_or_pos m with rfl | positive
  · rw [Nat.zero_mul, ofNat_eq_double (by decide)]
    exact natural?_double (n := 0) (.natural (by decide))
  · have digits := (log2_add_lt_iff positive n 1024).mpr small
    clear small
    rw [ofNat_mul_two_pow fits]
    exact natural?_double ⟨fits, by omega, by omega⟩

theorem ofNat_mul_two_pow_of_large (fits : m < 2 ^ 53) (large : 2 ^ 1024 ≤ m * 2 ^ n) :
    Float.ofNat (m * 2 ^ n) = infinite := by
  rcases Nat.eq_zero_or_pos m with rfl | positive
  · rw [Nat.zero_mul] at large
    exact absurd (pow_pos Nat.two_pos 1024) (Nat.not_lt.mpr large)
  · have digits := (log2_add_lt_iff positive n 1024).not.mpr (Nat.not_lt.mpr large)
    clear large
    rw [ofNat_mul_two_pow fits, double_of_large positive fits (by omega)]

/-- The remainder after division by a power of two consists of the last binary digits. -/
theorem remainder_powerOfTwo (fits : m < 2 ^ 53) (small : n ≤ 1023) :
    remainder (Float.ofNat m) (powerOfTwo n) = Float.ofNat (m % 2 ^ n) := by
  have fits' : m % 2 ^ n < 2 ^ 53 := Nat.lt_of_le_of_lt (Nat.mod_le ..) fits
  rw [ofNat_eq_double fits, ofNat_eq_double fits', powerOfTwo_eq_double (by omega), remainder,
    unpack_double (.natural fits), unpack_double (inRange_powerOfTwo small)]
  rcases Nat.eq_zero_or_pos m with rfl | positive
  · rw [Nat.zero_mod, dyadic_of_pos Nat.one_pos]
    rfl
  have digits := log2_le_of_lt fits
  have one : places 1 = 52 := by decide
  -- Both are written with the smaller exponent, which is that of `j` binary places.
  obtain ⟨j, smaller⟩ : ∃ j : Nat, min (0 - (places m : Int)) (n - places 1) = -j :=
    ⟨(-min (0 - (places m : Int)) (n - places 1)).toNat, by omega⟩
  have dividend : m * 2 ^ places m * 2 ^ (0 - places m - -(j : Int)).toNat = m * 2 ^ j := by
    rw [Nat.mul_assoc, ← Nat.pow_add]
    congr 2
    omega
  have divisor : 1 * 2 ^ places 1 * 2 ^ (n - places 1 - -(j : Int)).toNat = 2 ^ n * 2 ^ j := by
    rw [Nat.one_mul, ← Nat.pow_add, ← Nat.pow_add]
    congr 1
    omega
  rw [dyadic_of_pos positive, dyadic_of_pos Nat.one_pos]
  simp only [smaller, Nat.pow_eq, dividend, divisor, Nat.mul_mod_mul_right, Sign.apply]
  rw [normalize_exact fits' (by omega), Int.add_left_neg, double]

theorem remainder_infinite (fits : m < 2 ^ 53) :
    remainder (Float.ofNat m) infinite = Float.ofNat m := by
  rw [remainder, unpack_infinite, ofNat_eq_double fits, unpack_double (.natural fits)]
  rcases Nat.eq_zero_or_pos m with rfl | positive
  · rfl
  · rw [dyadic_of_pos positive]

/-- A multiple of a power of two is divided by dropping digits. -/
theorem ofNat_div_powerOfTwo (fits : m * 2 ^ n < 2 ^ 53) (small : n ≤ 1023) :
    Float.ofNat (m * 2 ^ n) / powerOfTwo n = Float.ofNat m := by
  have fits' : m < 2 ^ 53 := Nat.lt_of_le_of_lt (Nat.le_mul_of_pos_right m (by positivity)) fits
  have range : InRange (m * 1) n := by
    have digits := (InRange.natural fits).small
    rcases Nat.eq_zero_or_pos m with rfl | positive
    · have digits : Nat.log2 (0 * 1) = 0 := by decide
      exact ⟨by decide, by omega, by omega⟩
    · rw [Nat.mul_one]
      rw [log2_mul_two_pow positive] at digits
      exact ⟨fits', by omega, by omega⟩
  have quotient := div_double range (inRange_powerOfTwo small) Nat.one_pos (by omega)
  rw [ofNat_mul_two_pow fits', powerOfTwo_eq_double (by omega), ofNat_eq_double fits']
  rwa [Nat.mul_one, Int.sub_self] at quotient

theorem zero_div_infinite : Float.ofNat 0 / infinite = Float.ofNat 0 := by
  rw [div_eq, unpack_infinite, ofNat_eq_double (by decide), unpack_double (.natural (by decide))]
  rfl

end Naturals

/-! ## Literals -/

/-- The quotient of a natural number and a power of ten is exact if it is a natural number with at
most 53 binary digits. -/
theorem ofScientific_eq_dyadic {n e : Nat} (fits : n < 2 ^ 53) (scaled : 0 < e) :
    UnpackedFloat.ofScientific Format.binary64 (n * 10 ^ e) (-e) = dyadic n 0 := by
  rcases Nat.eq_zero_or_pos n with rfl | positive
  · rw [Nat.zero_mul]
    rfl
  have nonzero : n * 10 ^ e ≠ 0 := by positivity
  have digits : e ≤ (n * 10 ^ e).log2 := by
    rw [Nat.le_log2 nonzero]
    calc 2 ^ e ≤ 10 ^ e := Nat.pow_le_pow_left (by decide) e
      _ ≤ n * 10 ^ e := Nat.le_mul_of_pos_left _ positive
  have bits : (2 : Int) ^ Format.binary64.exponentBits = 2048 := by decide
  have power : (-(-(e : Int))).toNat = e := by omega
  have quotient : div Format.binary64 (.finite .positive (n * 10 ^ e) 0 (by positivity))
      (.finite .positive (10 ^ e) 0 (by positivity)) = dyadic n 0 :=
    div_exact (a := 0) (b := 0) _ _ rfl fits (by omega)
  rw [UnpackedFloat.ofScientific, dif_neg nonzero, bits, if_neg (by omega), if_neg (by omega),
    if_neg (by omega)]
  simp only [power, quotient]

/-- A decimal number that is a natural number with at most 53 binary digits is read as this number,
however many places it has after its point. -/
theorem ofScientific_eq_ofNat {n e : Nat} (fits : n < 2 ^ 53) :
    Float.ofScientific (n * 10 ^ e) true e = Float.ofNat n := by
  have size : Float.exactlyRepresentablePowersOfTen.size = 23 := rfl
  rw [Float.ofScientific, ofNat_eq_double fits]
  split
  · rename_i fast
    have factors : n * 10 ^ e = n * 5 ^ e * 2 ^ e := by
      rw [Nat.mul_assoc, ← Nat.mul_pow]
    have fits' : n * 5 ^ e * 2 ^ e < 2 ^ 53 := factors ▸ fast.1
    have range : InRange (n * 5 ^ e) e := by
      have short : n * 5 ^ e < 2 ^ 53 :=
        Nat.lt_of_le_of_lt (Nat.le_mul_of_pos_right _ (by positivity)) fits'
      have digits := log2_le_of_lt short
      have few := fast.2
      exact ⟨short, by omega, by omega⟩
    have quotient := div_double range (inRange_powerOfTen fast.2) (by positivity) (by omega)
    simp only [if_true]
    rw [powersOfTen_eq_double ⟨e, by omega⟩, toFloat_eq_double fast.1, factors,
      double_mul_two_pow fits', Int.zero_add, quotient, Int.sub_self]
  · rename_i slow
    rcases Nat.eq_zero_or_pos e with rfl | scaled
    · rw [Nat.pow_zero, Nat.mul_one] at slow
      omega
    have quotient := ofScientific_eq_dyadic fits scaled
    simp only [if_true, Int.negOfNat_eq]
    change Float.ofModel (.pack (UnpackedFloat.ofScientific Format.binary64 _ _)) = _
    rw [Int.ofNat_eq_natCast, quotient, double]

end Calculator.Number
