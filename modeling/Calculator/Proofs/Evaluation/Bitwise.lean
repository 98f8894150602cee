import Calculator.Proofs.Evaluation.Views
import Calculator.Proofs.Number.Naturals

/-!
# Bitwise operators on natural numbers

The operators `&`, `|`, `^` and `>>` are closed over the natural numbers of at most
`Number.maxSafe`, and they are exact there. A tree of such operators over literals that write such
numbers has a meaning in natural numbers (`Expr.Computes`), and evaluation finds it
(`Expr.Computes.outcome_evaluateAt`).

The results of the first three are natural numbers from the start. A shift to the right is computed
in doubles: what it takes away is the remainder, so that the division is exact, and a power of two
that is infinite leaves nothing (`shiftedRight_ofNat`).
-/

set_option autoImplicit false

namespace Calculator

open Number (maxSafe)

/-! ## Literals of natural numbers -/

/-- The literal writes the natural number `n`: without its point it is `n` followed by as many zeros
as there are places after the point. -/
def Number.Writes (literal : List Char) (n : Nat) : Prop :=
  isLiteral literal = true ∧
    Nat.ofDigitChars 10 (wholeDigits literal ++ fractionDigits literal) 0 =
      n * Nat.pow 10 (fractionDigits literal).length

namespace Number

theorem lt_of_le_maxSafe {n : Nat} (safe : n ≤ maxSafe) : n < 2 ^ 53 :=
  Nat.lt_of_le_of_lt safe (by decide)

theorem le_maxSafe_of_lt {n : Nat} (fits : n < 2 ^ 53) : n ≤ maxSafe :=
  Nat.le_of_lt_succ fits

theorem Writes.ofLiteral_eq {literal : List Char} {n : Nat} (writes : Writes literal n)
    (safe : n ≤ maxSafe) : Value.ofLiteral literal = .ok (.number (Float.ofNat n)) := by
  obtain ⟨form, value⟩ := writes
  rw [Value.ofLiteral, if_pos form, ofLiteral]
  simp only [value, Nat.pow_eq]
  rw [ofScientific_eq_ofNat (lt_of_le_maxSafe safe)]

/-- Every natural number is written by its decimal digits. -/
theorem writes_toDigits (n : Nat) : Writes (Nat.toDigits 10 n) n := by
  have digits : ∀ c ∈ Nat.toDigits 10 n, c.isDigit = true := fun c member =>
    Nat.isDigit_of_mem_toDigits (by decide) (by decide) member
  have whole : wholeDigits (Nat.toDigits 10 n) = Nat.toDigits 10 n :=
    List.takeWhile_eq_self_iff.mpr digits
  have fraction : fractionDigits (Nat.toDigits 10 n) = [] := by
    rw [fractionDigits, List.dropWhile_eq_nil_iff.mpr digits, List.drop_nil]
  refine ⟨isLiteral_iff.mpr (.whole ⟨Nat.toDigits_ne_nil, digits⟩), ?_⟩
  rw [whole, fraction, List.append_nil, Nat.ofDigitChars_ten_toDigits]
  simp

end Number

/-! ## Operators -/

/-- What an operator computes of natural numbers, if it keeps to the safe ones. -/
def BinaryOperator.onNaturals? : BinaryOperator → Option (Nat → Nat → Nat)
  | bitAnd => some fun m n => m &&& n
  | bitOr => some fun m n => m ||| n
  | bitXor => some fun m n => m ^^^ n
  | shiftRight => some fun m n => m / 2 ^ n
  | _ => none

namespace BinaryOperator

variable {m n : Nat}

theorem asNatural_ofNat (op : BinaryOperator) (safe : n ≤ maxSafe) :
    op.asNatural (Float.ofNat n) = .ok n := by
  rw [asNatural, Number.safeNatural?_ofNat safe]

/-- A shift to the right takes away the remainder and divides exactly. -/
theorem shiftedRight_ofNat (safe : m ≤ maxSafe) (n : Nat) :
    shiftedRight (Float.ofNat m) n = Float.ofNat (m / 2 ^ n) := by
  have fits := Number.lt_of_le_maxSafe safe
  by_cases small : n ≤ 1023
  · have whole : m - m % 2 ^ n = m / 2 ^ n * 2 ^ n := by
      have := Nat.div_add_mod' m (2 ^ n)
      omega
    have fits' : m / 2 ^ n * 2 ^ n < 2 ^ 53 :=
      Nat.lt_of_le_of_lt (Nat.div_mul_le_self m (2 ^ n)) fits
    simp only [shiftedRight]
    rw [Number.remainder_powerOfTwo fits small, Number.ofNat_sub_ofNat (Nat.mod_le ..) fits, whole,
      Number.ofNat_div_powerOfTwo fits' small]
  · -- The power of two is infinite, and the remainder is all there is.
    have nothing : m / 2 ^ n = 0 := by
      refine Nat.div_eq_of_lt (Nat.lt_of_lt_of_le fits ?_)
      exact Nat.pow_le_pow_right (by decide) (by omega)
    simp only [shiftedRight]
    rw [Number.powerOfTwo_of_large (by omega), Number.remainder_infinite fits,
      Number.ofNat_sub_ofNat (Nat.le_refl m) fits, Nat.sub_self, Number.zero_div_infinite, nothing]

/-- A bitwise operator computes from natural numbers and from the left one as a double. -/
theorem bitwise_ofNat (op : BinaryOperator) (safe : m ≤ maxSafe) (safe' : n ≤ maxSafe)
    (result : Float → Nat → Nat → Float) :
    apply.bitwise op (.number (Float.ofNat m)) (.number (Float.ofNat n)) result =
      .ok (.number (result (Float.ofNat m) m n)) := by
  change (op.asNatural (Float.ofNat m) >>= fun m' => op.asNatural (Float.ofNat n) >>= fun n' =>
    pure (Value.number (result (Float.ofNat m) m' n'))) = _
  rw [asNatural_ofNat op safe, asNatural_ofNat op safe']
  rfl

/-- Such an operator computes on doubles what it computes of natural numbers. -/
theorem apply_ofNat {op : BinaryOperator} {compute : Nat → Nat → Nat}
    (known : op.onNaturals? = some compute) (safe : m ≤ maxSafe) (safe' : n ≤ maxSafe) :
    op.apply (.number (Float.ofNat m)) (.number (Float.ofNat n)) =
      .ok (.number (Float.ofNat (compute m n))) := by
  cases op <;> cases known
  case bitAnd | bitOr | bitXor => exact bitwise_ofNat _ safe safe' _
  case shiftRight =>
    refine (bitwise_ofNat .shiftRight safe safe' _).trans ?_
    rw [shiftedRight_ofNat safe]

/-- Such an operator stays within the safe numbers. -/
theorem compute_le_maxSafe {op : BinaryOperator} {compute : Nat → Nat → Nat}
    (known : op.onNaturals? = some compute) (safe : m ≤ maxSafe) (safe' : n ≤ maxSafe) :
    compute m n ≤ maxSafe := by
  have fits := Number.lt_of_le_maxSafe safe
  have fits' := Number.lt_of_le_maxSafe safe'
  cases op <;> cases known
  case bitAnd => exact Nat.le_trans Nat.and_le_left safe
  case bitOr => exact Number.le_maxSafe_of_lt (Nat.or_lt_two_pow fits fits')
  case bitXor => exact Number.le_maxSafe_of_lt (Nat.xor_lt_two_pow fits fits')
  case shiftRight => exact Nat.le_trans (Nat.div_le_self ..) safe

end BinaryOperator

/-! ## Trees -/

/-- The tree consists of such operators over literals of safe natural numbers, and this is what it
computes. -/
inductive Expr.Computes : Expr → Nat → Prop where
  | literal {digits : List Char} {n : Nat} (writes : Number.Writes digits n) (safe : n ≤ maxSafe) :
      Computes (.literal digits) n
  | binary {op : BinaryOperator} {compute : Nat → Nat → Nat} {left right : Expr} {m n : Nat}
      (known : op.onNaturals? = some compute) (ofLeft : Computes left m)
      (ofRight : Computes right n) : Computes (.binary op left right) (compute m n)

theorem Expr.Computes.le_maxSafe {expr : Expr} {n : Nat} (computes : expr.Computes n) :
    n ≤ maxSafe := by
  induction computes with
  | literal _ safe => exact safe
  | binary known _ _ safe safe' => exact BinaryOperator.compute_le_maxSafe known safe safe'

/-- An operator that is not logical is applied to the values of its operands. -/
theorem outcome_evaluateNode_binary {α : Type} {next : α → Traced EvalError Value}
    {op : BinaryOperator} {left right : α} {value value' : Value} (computes : op.isLogical = false)
    (ofLeft : (next left).outcome = .ok value) (ofRight : (next right).outcome = .ok value') :
    (evaluateNode next (.binary op left right)).outcome = op.apply value value' := by
  rw [evaluateNode, Traced.outcome_bind_of_eq_ok ofLeft,
    BinaryOperator.settled?_of_not_isLogical computes, Traced.outcome_bind_of_eq_ok ofRight,
    Traced.outcome_bind]
  cases op.apply value value' with
  | error error => rfl
  | ok result => cases op.isBitwise <;> rfl

theorem outcome_evaluateAt_binary {limits : Limits} {depth : Nat} {op : BinaryOperator}
    {left right : Expr} {value value' : Value} (allowed : depth ≤ limits.maxDepth)
    (computes : op.isLogical = false)
    (ofLeft : (evaluateAt .tree limits (depth + 1) left).outcome = .ok value)
    (ofRight : (evaluateAt .tree limits (depth + 1) right).outcome = .ok value') :
    (evaluateAt .tree limits depth (.binary op left right)).outcome = op.apply value value' := by
  rw [outcome_evaluateAt_of_node allowed rfl]
  exact outcome_evaluateNode_binary computes ofLeft ofRight

/-- **Such a tree evaluates to what it computes**, at every depth that leaves room for it. -/
theorem Expr.Computes.outcome_evaluateAt {expr : Expr} {n : Nat} (computes : expr.Computes n)
    {limits : Limits} {depth : Nat} (room : depth + expr.depth ≤ limits.maxDepth + 1) :
    (evaluateAt .tree limits depth expr).outcome = .ok (.number (Float.ofNat n)) := by
  induction computes generalizing depth with
  | literal writes safe =>
      rw [Expr.depth] at room
      rw [outcome_evaluateAt_of_node (by omega) rfl]
      exact writes.ofLiteral_eq safe
  | @binary op compute left right m n known ofLeft ofRight ihLeft ihRight =>
      rw [Expr.depth] at room
      have computes : op.isLogical = false := by
        cases op <;> first | rfl | cases known
      rw [outcome_evaluateAt_binary (by omega) computes (ihLeft (by omega)) (ihRight (by omega))]
      exact BinaryOperator.apply_ofNat known ofLeft.le_maxSafe ofRight.le_maxSafe

/-! ## Disjunction as a sum -/

theorem or_eq_xor_add_and (a b : Nat) : a ||| b = (a ^^^ b) + (a &&& b) := by
  induction a using Nat.strongRecOn generalizing b with
  | ind a ih =>
      by_cases zero : a = 0
      · simp [zero]
      have half := ih (a / 2) (by omega) (b / 2)
      rw [← Nat.or_div_two, ← Nat.xor_div_two, ← Nat.and_div_two] at half
      have lastOr := @Nat.or_mod_two_eq_one a b
      have lastXor := @Nat.xor_mod_two_eq_one a b
      have lastAnd := @Nat.and_mod_two_eq_one a b
      omega

/-- The expression `(a | b) == (a ^ b) + (a & b)`. -/
def disjunctionAsSum (a b : Expr) : Expr :=
  .binary .equal (.binary .bitOr a b) (.binary .add (.binary .bitXor a b) (.binary .bitAnd a b))

/-- **Bitwise operators are exact and closed.** A tree of `&`, `|`, `^` and `>>` over literals of
natural numbers that are at most `maxSafe` evaluates to the number that it computes, which is no
larger and is represented exactly, whatever is shifted by how much. Every natural number is written
by a literal. For all numbers `a` and `b` of at most `maxSafe`, however they are written,
`(a | b) == (a ^ b) + (a & b)` is true. -/
theorem bitwise_is_exact (limits : Limits) :
    (∀ (expr : Expr) (n : Nat), expr.Computes n → expr.depth ≤ limits.maxDepth →
      (evaluate limits expr).outcome = .ok (.number (Float.ofNat n)) ∧ n ≤ maxSafe ∧
        Number.safeNatural? (Float.ofNat n) = some n) ∧
    (∀ n, Number.Writes (Nat.toDigits 10 n) n) ∧
    ∀ a b, a ≤ maxSafe → b ≤ maxSafe → ∀ first second, Number.Writes first a →
      Number.Writes second b → 4 ≤ limits.maxDepth →
        (evaluate limits (disjunctionAsSum (.literal first) (.literal second))).outcome =
          .ok (.bool true) := by
  refine ⟨fun expr n computes shallow => ?_, Number.writes_toDigits, ?_⟩
  · exact ⟨computes.outcome_evaluateAt (by omega), computes.le_maxSafe,
      Number.safeNatural?_ofNat computes.le_maxSafe⟩
  · intro a b safe safe' first second writes writes' room
    have operand (op : BinaryOperator) {compute : Nat → Nat → Nat}
        (known : op.onNaturals? = some compute) :
        (Expr.binary op (.literal first) (.literal second)).Computes (compute a b) :=
      .binary known (.literal writes safe) (.literal writes' safe')
    have disjunction := operand .bitOr rfl
    have sum : (evaluateAt .tree limits 2 (.binary .add
        (.binary .bitXor (.literal first) (.literal second))
        (.binary .bitAnd (.literal first) (.literal second)))).outcome =
          .ok (.number (Float.ofNat (a ||| b))) := by
      rw [outcome_evaluateAt_binary (by omega) rfl
        ((operand .bitXor rfl).outcome_evaluateAt (by simp only [Expr.depth]; omega))
        ((operand .bitAnd rfl).outcome_evaluateAt (by simp only [Expr.depth]; omega))]
      have fits := Number.lt_of_le_maxSafe disjunction.le_maxSafe
      change Except.ok (Value.number (Float.ofNat (a ^^^ b) + Float.ofNat (a &&& b))) = _
      rw [Number.ofNat_add_ofNat (by rwa [← or_eq_xor_add_and]), ← or_eq_xor_add_and]
    rw [evaluate, disjunctionAsSum, outcome_evaluateAt_binary (by omega) rfl
      (disjunction.outcome_evaluateAt (by simp only [Expr.depth]; omega)) sum]
    have same := Number.ofNat_beq_ofNat (Number.lt_of_le_maxSafe disjunction.le_maxSafe)
    change Except.ok (Value.bool (Float.ofNat (a ||| b) == Float.ofNat (a ||| b))) = _
    rw [same]

/-- The largest safe number is shifted by two places and another one by four thousand. The number of
places is written with a fraction. -/
theorem bitwise_is_exact_of_shifts :
    let largest := "9007199254740991".toList
    let shifts := Expr.binary .bitXor
      (.binary .shiftRight (.literal largest) (.literal "2.00".toList))
      (.binary .shiftRight (.literal ['5']) (.literal "4000".toList))
    shifts.Computes 2251799813685247 ∧
      (evaluate ⟨0, 3⟩ shifts).outcome = .ok (.number (Float.ofNat 2251799813685247)) ∧
      (evaluate ⟨0, 4⟩ (disjunctionAsSum (.literal largest) (.literal ['6']))).outcome =
        .ok (.bool true) := by
  intro largest shifts
  have writesLargest : Number.Writes largest maxSafe := ⟨by decide, by decide +kernel⟩
  have writesTwo : Number.Writes "2.00".toList 2 := ⟨by decide, by decide +kernel⟩
  have writesFourThousand : Number.Writes "4000".toList 4000 := ⟨by decide, by decide +kernel⟩
  have writesFive : Number.Writes ['5'] 5 := ⟨by decide, by decide +kernel⟩
  have writesSix : Number.Writes ['6'] 6 := ⟨by decide, by decide +kernel⟩
  have shifted {m n : Nat} {digits places : List Char} (writes : Number.Writes digits m)
      (safe : m ≤ maxSafe) (writes' : Number.Writes places n) (safe' : n ≤ maxSafe) :=
    Expr.Computes.binary (show BinaryOperator.shiftRight.onNaturals? = _ from rfl)
      (.literal writes safe) (.literal writes' safe')
  have computes := Expr.Computes.binary (show BinaryOperator.bitXor.onNaturals? = _ from rfl)
    (shifted writesLargest (Nat.le_refl _) writesTwo (by decide))
    (shifted writesFive (by decide) writesFourThousand (by decide))
  have value : maxSafe / 2 ^ 2 ^^^ 5 / 2 ^ 4000 = 2251799813685247 := by decide +kernel
  rw [value] at computes
  have evaluated := ((bitwise_is_exact ⟨0, 3⟩).1 shifts _ computes (by decide)).1
  exact ⟨computes, evaluated, (bitwise_is_exact ⟨0, 4⟩).2.2 _ _ (Nat.le_refl _) (by decide) _ _
    writesLargest writesSix (Nat.le_refl _)⟩

end Calculator
