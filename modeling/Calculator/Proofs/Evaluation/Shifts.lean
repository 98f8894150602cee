import Calculator.Proofs.Evaluation.Bitwise
import Calculator.Proofs.Evaluation.Visits

/-!
# Shifts to the left

A shift of a natural number of at most `Number.maxSafe` to the left is exact as long as the result
is below `2 ^ 1024`, and infinite beyond that. It never fails and never loses a digit, since the
result has no more significant binary digits than the number that is shifted. A shift to the right
takes it back where the result is again at most `Number.maxSafe`, and refuses it otherwise
(`shift_left_is_exact`).

Zero stays zero however far it is shifted, also where the power of two is infinite and the product
would be no number (`BinaryOperator.shiftedLeft_ofNat`).
-/

set_option autoImplicit false

namespace Calculator

open Number (maxSafe)

namespace BinaryOperator

variable {m n : Nat}

/-- A shift to the left is the double of the number that it stands for, which is infinite if that
is too large. -/
theorem shiftedLeft_ofNat (safe : m ≤ maxSafe) (n : Nat) :
    shiftedLeft (Float.ofNat m) m n = Float.ofNat (m * 2 ^ n) := by
  rw [shiftedLeft]
  split
  · rename_i zero
    rw [zero, Nat.zero_mul]
    rfl
  · rename_i nonzero
    exact Number.ofNat_mul_powerOfTwo (by omega) (Number.lt_of_le_maxSafe safe) n

theorem apply_shiftLeft_ofNat (safe : m ≤ maxSafe) (safe' : n ≤ maxSafe) :
    shiftLeft.apply (.number (Float.ofNat m)) (.number (Float.ofNat n)) =
      .ok (.number (Float.ofNat (m * 2 ^ n))) := by
  refine (bitwise_ofNat .shiftLeft safe safe' _).trans ?_
  rw [shiftedLeft_ofNat safe]

/-- A number that is too large after a shift to the left is no operand of a bitwise operator. -/
theorem asNatural_of_large (op : BinaryOperator) (safe : m ≤ maxSafe)
    (large : maxSafe < m * 2 ^ n) :
    op.asNatural (Float.ofNat (m * 2 ^ n)) =
      .error (.expectedNatural op (Float.ofNat (m * 2 ^ n))) := by
  have fits := Number.lt_of_le_maxSafe safe
  have unsafe' : Number.safeNatural? (Float.ofNat (m * 2 ^ n)) = none := by
    rw [Number.safeNatural?_eq]
    rcases Nat.lt_or_ge (m * 2 ^ n) (2 ^ 1024) with small | huge
    · rw [Number.natural?_ofNat_mul_two_pow fits small]
      exact Option.filter_eq_none_iff.mpr (by simpa using large)
    · rw [Number.ofNat_mul_two_pow_of_large fits huge, Number.natural?_infinite]
      rfl
  rw [asNatural, unsafe']

end BinaryOperator

/-- An operator that is not logical is applied to the values of its operands, if the tree is no
deeper than the limit. -/
theorem outcome_evaluate_binary {limits : Limits} {op : BinaryOperator} {left right : Expr}
    {value value' : Value} (shallow : (Expr.binary op left right).depth ≤ limits.maxDepth)
    (computes : op.isLogical = false) (ofLeft : (evaluate limits left).outcome = .ok value)
    (ofRight : (evaluate limits right).outcome = .ok value') :
    (evaluate limits (.binary op left right)).outcome = op.apply value value' := by
  have levels : max left.depth right.depth + 1 ≤ limits.maxDepth := shallow
  rw [outcome_evaluate_of_depth_le (by omega)] at ofLeft ofRight
  rw [outcome_evaluate_of_depth_le shallow, View.outcome_eq]
  exact outcome_evaluateNode_binary computes ofLeft ofRight

/-- The number of a literal of decimal digits is found, if it is safe. -/
theorem outcome_evaluate_toDigits {limits : Limits} {n : Nat} (safe : n ≤ maxSafe)
    (room : 1 ≤ limits.maxDepth) :
    (evaluate limits (.literal (Nat.toDigits 10 n))).outcome = .ok (.number (Float.ofNat n)) :=
  (Expr.Computes.literal (Number.writes_toDigits n) safe).outcome_evaluateAt
    (by simp only [Expr.depth]; omega)

/-- **A shift to the left is exact or infinite, and a shift to the right takes it back.** Let two
expressions have natural numbers `a` and `b` of at most `maxSafe` as their values; literals of their
decimal digits are such expressions. The first shifted to the left by the second is `a * 2 ^ b`,
exactly, if that is below `2 ^ 1024`, and infinite otherwise. Shifting the result back gives `a` if
`a * 2 ^ b` is at most `maxSafe`, and is refused otherwise, naming the shifted value. -/
theorem shift_left_is_exact (limits : Limits) :
    (∀ n, n ≤ maxSafe → 1 ≤ limits.maxDepth →
      (evaluate limits (.literal (Nat.toDigits 10 n))).outcome = .ok (.number (Float.ofNat n))) ∧
    ∀ (left right : Expr) (a b : Nat), a ≤ maxSafe → b ≤ maxSafe →
      (evaluate limits left).outcome = .ok (.number (Float.ofNat a)) →
      (evaluate limits right).outcome = .ok (.number (Float.ofNat b)) →
      let shifted := Expr.binary .shiftLeft left right
      let back := Expr.binary .shiftRight shifted right
      (shifted.depth ≤ limits.maxDepth → ∃ result, (evaluate limits shifted).outcome =
          .ok (.number result) ∧
        (a * 2 ^ b < 2 ^ 1024 → result = Float.ofNat (a * 2 ^ b) ∧
          Number.natural? result = some (a * 2 ^ b)) ∧
        (2 ^ 1024 ≤ a * 2 ^ b → result = Number.infinite)) ∧
      (back.depth ≤ limits.maxDepth →
        (a * 2 ^ b ≤ maxSafe →
          (evaluate limits back).outcome = .ok (.number (Float.ofNat a))) ∧
        (maxSafe < a * 2 ^ b → ∃ result, (evaluate limits shifted).outcome = .ok (.number result) ∧
          (evaluate limits back).outcome = .error (.expectedNatural .shiftRight result))) := by
  refine ⟨fun n safe room => outcome_evaluate_toDigits safe room, ?_⟩
  intro left right a b safe safe' ofLeft ofRight shifted back
  have fits := Number.lt_of_le_maxSafe safe
  have evaluated (shallow : shifted.depth ≤ limits.maxDepth) :
      (evaluate limits shifted).outcome = .ok (.number (Float.ofNat (a * 2 ^ b))) := by
    rw [outcome_evaluate_binary shallow rfl ofLeft ofRight]
    exact BinaryOperator.apply_shiftLeft_ofNat safe safe'
  constructor
  · intro shallow
    refine ⟨_, evaluated shallow, ?_, ?_⟩
    · intro small
      exact ⟨rfl, Number.natural?_ofNat_mul_two_pow fits small⟩
    · intro large
      exact Number.ofNat_mul_two_pow_of_large fits large
  · intro shallow
    have inside : shifted.depth < back.depth :=
      Expr.depth_lt_of_mem_operands (by simp [back, Expr.node, Node.operands])
    have shiftedTo := evaluated (by omega)
    have evaluatedBack := outcome_evaluate_binary shallow rfl shiftedTo ofRight
    constructor
    · intro small
      rw [evaluatedBack, BinaryOperator.apply_ofNat rfl small safe',
        Nat.mul_div_cancel _ (Nat.two_pow_pos b)]
    · intro large
      refine ⟨_, shiftedTo, ?_⟩
      rw [evaluatedBack]
      change (BinaryOperator.shiftRight.asNatural (Float.ofNat (a * 2 ^ b)) >>= _) = _
      rw [BinaryOperator.asNatural_of_large _ safe large]
      rfl

/-- The largest safe number may be shifted by 971 places and becomes infinite with one place more.
Zero may be shifted by as many places as there are. Three is shifted by 51 places and back, and with
one place more it is refused on the way back. -/
theorem shift_left_is_exact_of_boundaries :
    let literal (n : Nat) := Expr.literal (Nat.toDigits 10 n)
    let shifted (m n : Nat) := Expr.binary .shiftLeft (literal m) (literal n)
    let back (m n : Nat) := Expr.binary .shiftRight (shifted m n) (literal n)
    (∃ result, (evaluate ⟨0, 2⟩ (shifted maxSafe 971)).outcome = .ok (.number result) ∧
        Number.natural? result = some (maxSafe * 2 ^ 971)) ∧
      (evaluate ⟨0, 2⟩ (shifted maxSafe 972)).outcome = .ok (.number Number.infinite) ∧
      (evaluate ⟨0, 2⟩ (shifted 0 maxSafe)).outcome = .ok (.number (Float.ofNat 0)) ∧
      (evaluate ⟨0, 3⟩ (back 3 51)).outcome = .ok (.number (Float.ofNat 3)) ∧
      ∃ result, (evaluate ⟨0, 3⟩ (shifted 3 52)).outcome = .ok (.number result) ∧
        (evaluate ⟨0, 3⟩ (back 3 52)).outcome = .error (.expectedNatural .shiftRight result) := by
  intro literal shifted back
  have shift (depth m n : Nat) (room : 1 ≤ depth) (safe : m ≤ maxSafe) (safe' : n ≤ maxSafe) :=
    (shift_left_is_exact ⟨0, depth⟩).2 (literal m) (literal n) m n safe safe'
      ((shift_left_is_exact ⟨0, depth⟩).1 m safe room)
      ((shift_left_is_exact ⟨0, depth⟩).1 n safe' room)
  obtain ⟨product, whole, small, _⟩ :=
    (shift 2 maxSafe 971 (by decide) (Nat.le_refl _) (by decide)).1 (by decide)
  obtain ⟨overflow, wholeOverflow, _, large⟩ :=
    (shift 2 maxSafe 972 (by decide) (Nat.le_refl _) (by decide)).1 (by decide)
  obtain ⟨zero, wholeZero, nothing, _⟩ :=
    (shift 2 0 maxSafe (by decide) (Nat.zero_le _) (Nat.le_refl _)).1 (by decide)
  rw [large (by decide +kernel)] at wholeOverflow
  rw [Nat.zero_mul] at nothing
  rw [(nothing (pow_pos Nat.two_pos 1024)).1] at wholeZero
  refine ⟨⟨product, whole, (small (by decide +kernel)).2⟩, wholeOverflow, wholeZero, ?_, ?_⟩
  · exact ((shift 3 3 51 (by decide) (by decide) (by decide)).2 (by decide)).1 (by decide)
  · exact ((shift 3 3 52 (by decide) (by decide) (by decide)).2 (by decide)).2 (by decide)

end Calculator
