import Calculator.Proofs.RoundTrip

/-!
# Failures of evaluation

Evaluation fails for one of two reasons. An operator refuses the values of its
operands: the divisor is zero, a truth value stands where a number is wanted, or a
number is none that has bits (`EvalError.OfOperator`). Or the expression cannot be
evaluated as it is written: it is no encoded expression, a literal writes no
number, or it is too deep.

A tree whose literals are well-formed and whose depth the limit allows leaves only
the first reason (`failsByOperator_evaluateAt`). Every tree that the parser returns
is such a tree under the limits that it was parsed with, so that a run of source
text which gets as far as evaluation fails there for no other reason
(`ofOperator_of_run`).
-/

set_option autoImplicit false

namespace Calculator

variable {α : Type}

/-- The failure is that of an operator which refuses the values of its operands. -/
inductive EvalError.OfOperator : EvalError → Prop where
  | divisionByZero (op : BinaryOperator) : OfOperator (.divisionByZero op)
  | expectedNumber (operator : List Char) (found : Value) :
      OfOperator (.expectedNumber operator found)
  | expectedNatural (op : BinaryOperator) (found : Float) : OfOperator (.expectedNatural op found)

instance : DecidablePred EvalError.OfOperator
  | .divisionByZero op => .isTrue (.divisionByZero op)
  | .expectedNumber operator found => .isTrue (.expectedNumber operator found)
  | .expectedNatural op found => .isTrue (.expectedNatural op found)
  | .malformed _ _ | .invalidLiteral _ | .unknownOperator _ | .wrongArity _ _ _ | .tooDeep _ =>
      .isFalse nofun

/-- The outcome is a result, or the failure of an operator. -/
abbrev FailsByOperator (outcome : Except EvalError α) : Prop :=
  Ensures outcome (fun _ => True) EvalError.OfOperator

/-! ## Operators -/

theorem failsByOperator_asNumber (operator : List Char) (value : Value) :
    FailsByOperator (value.asNumber operator) := by
  cases value with
  | number x => trivial
  | bool b => exact .expectedNumber operator (.bool b)

theorem failsByOperator_unaryApply (op : UnaryOperator) (operand : Value) :
    FailsByOperator (op.apply operand) := by
  cases op with
  | plus | minus => exact (failsByOperator_asNumber _ operand).bind fun _ _ => trivial
  | not => trivial

namespace BinaryOperator

variable (op : BinaryOperator) (left right : Value)

theorem failsByOperator_asNatural (x : Float) : FailsByOperator (op.asNatural x) := by
  unfold asNatural
  split
  · trivial
  · exact .expectedNatural op x

theorem failsByOperator_numbers {compute : Float → Float → Except EvalError Value}
    (each : ∀ x y, FailsByOperator (compute x y)) :
    FailsByOperator (apply.numbers op left right compute) :=
  (failsByOperator_asNumber _ left).bind fun x _ =>
    (failsByOperator_asNumber _ right).bind fun y _ => each x y

theorem failsByOperator_comparison (compute : Float → Float → Bool) :
    FailsByOperator (apply.comparison op left right compute) :=
  failsByOperator_numbers op left right fun _ _ => trivial

theorem failsByOperator_arithmetic (compute : Float → Float → Float) :
    FailsByOperator (apply.arithmetic op left right compute) :=
  failsByOperator_numbers op left right fun _ _ => trivial

theorem failsByOperator_division (compute : Float → Float → Float) :
    FailsByOperator (apply.division op left right compute) := by
  refine failsByOperator_numbers op left right fun x y => ?_
  split
  · exact .divisionByZero op
  · trivial

theorem failsByOperator_bitwise (compute : Float → Nat → Nat → Float) :
    FailsByOperator (apply.bitwise op left right compute) :=
  failsByOperator_numbers op left right fun x y =>
    (failsByOperator_asNatural op x).bind fun _ _ =>
      (failsByOperator_asNatural op y).bind fun _ _ => trivial

/-- A binary operator fails for no reason but its operands' values. -/
theorem failsByOperator_apply : FailsByOperator (op.apply left right) := by
  cases op with
  | or | and => trivial
  | less | lessEqual | greater | greaterEqual | equal | notEqual =>
      exact failsByOperator_comparison _ left right _
  | add | subtract | multiply | power => exact failsByOperator_arithmetic _ left right _
  | divide | modulo => exact failsByOperator_division _ left right _
  | bitOr | bitXor | bitAnd | shiftLeft | shiftRight => exact failsByOperator_bitwise _ left right _

end BinaryOperator

/-! ## Nodes and trees -/

/-- A node fails as its operands do, as an operator does, or as a literal that writes no number. -/
theorem ensures_evaluateNode {bad : EvalError → Prop} {next : α → Traced EvalError Value}
    {node : Node α}
    (literal : ∀ digits, node = .literal digits →
      Ensures (Value.ofLiteral digits) (fun _ => True) bad)
    (operator : ∀ error : EvalError, error.OfOperator → bad error)
    (each : ∀ operand ∈ node.operands, Ensures (next operand).outcome (fun _ => True) bad) :
    Ensures (evaluateNode next node).outcome (fun _ => True) bad := by
  cases node with
  | literal digits => exact literal digits rfl
  | unary op operand =>
      exact (each operand (by simp [Node.operands])).outcome_bind fun value _ =>
        (failsByOperator_unaryApply op value).imp_failure operator
  | binary op left right =>
      refine (each left (by simp [Node.operands])).outcome_bind fun value _ => ?_
      split
      · trivial
      · refine (each right (by simp [Node.operands])).outcome_bind fun value' _ => ?_
        have applied := (op.failsByOperator_apply value value').imp_failure operator
        refine Ensures.outcome_bind applied fun result _ => ?_
        split <;> trivial
  | conditional condition whenTrue whenFalse =>
      refine (each condition (by simp [Node.operands])).outcome_bind fun value _ => ?_
      split
      · exact each whenTrue (by simp [Node.operands])
      · exact each whenFalse (by simp [Node.operands])

/-- A node fails by an operator if its operands do, unless it is a literal that writes no number. -/
theorem failsByOperator_evaluateNode {next : α → Traced EvalError Value} {node : Node α}
    (form : ∀ digits, node = .literal digits → Number.LiteralForm digits)
    (each : ∀ operand ∈ node.operands, FailsByOperator (next operand).outcome) :
    FailsByOperator (evaluateNode next node).outcome := by
  refine ensures_evaluateNode (fun digits same => ?_) (fun _ => id) each
  obtain ⟨value, valid⟩ := Encoding.ofLiteral_eq_ok_iff.mpr (form digits same)
  rw [valid]
  trivial

/-- **A well-formed tree within the limit fails by an operator only.** -/
theorem failsByOperator_evaluateAt {limits : Limits} {expr : Expr}
    (form : ∀ digits ∈ expr.literals, Number.LiteralForm digits) {depth : Nat}
    (room : depth + expr.depth ≤ limits.maxDepth + 1) :
    FailsByOperator (evaluateAt .tree limits depth expr).outcome := by
  induction expr using Expr.induct_operands generalizing depth with
  | step expr ih =>
      have levels := expr.depth_pos
      rw [outcome_evaluateAt_of_node (by omega) rfl]
      refine failsByOperator_evaluateNode ?_ fun operand member => ?_
      · intro digits same
        cases expr <;> cases same
        exact form digits (by simp [Expr.literals])
      · have := Expr.depth_lt_of_mem_operands member
        exact ih operand member (fun digits inside =>
          form digits (Expr.mem_literals_of_mem_operands member inside)) (by omega)

/-! ## Runs -/

/-- A run fails in evaluation only when evaluation of the expression that was parsed does. -/
theorem exists_parse_of_run {limits : Limits} {source : List Char} {error : EvalError}
    (failed : (run limits source).outcome = .error (.eval error)) :
    ∃ tokens expr, (tokenize source).outcome = .ok tokens ∧
      (parse limits tokens).outcome = .ok expr ∧ (evaluate limits expr).outcome = .error error := by
  rcases Traced.outcome_bind_eq_error_iff.mp failed with failed | ⟨tokens, scanned, failed⟩
  · obtain ⟨_, _, impossible⟩ := mapError_eq_error_iff.mp failed
    cases impossible
  rw [Traced.outcome_bind_of_eq_ok (Traced.outcome_log _)] at failed
  rcases Traced.outcome_bind_eq_error_iff.mp failed with failed | ⟨expr, parsed, failed⟩
  · obtain ⟨_, _, impossible⟩ := mapError_eq_error_iff.mp failed
    cases impossible
  rw [Traced.outcome_bind_of_eq_ok (Traced.outcome_log _)] at failed
  rcases Traced.outcome_bind_eq_error_iff.mp failed with failed | ⟨value, _, failed⟩
  · obtain ⟨_, evaluated, same⟩ := mapError_eq_error_iff.mp failed
    cases same
    exact ⟨tokens, expr, mapError_eq_ok_iff.mp scanned, mapError_eq_ok_iff.mp parsed, evaluated⟩
  · cases failed

/-- A run has a value only when evaluation of the expression that was parsed does. -/
theorem exists_parse_of_run_eq_ok {limits : Limits} {source : List Char} {value : Value}
    (ran : (run limits source).outcome = .ok value) :
    ∃ tokens expr, (tokenize source).outcome = .ok tokens ∧
      (parse limits tokens).outcome = .ok expr ∧ (evaluate limits expr).outcome = .ok value := by
  obtain ⟨tokens, scanned, ran⟩ := Traced.outcome_bind_eq_ok_iff.mp ran
  obtain ⟨_, _, ran⟩ := Traced.outcome_bind_eq_ok_iff.mp ran
  obtain ⟨expr, parsed, ran⟩ := Traced.outcome_bind_eq_ok_iff.mp ran
  have scanned := mapError_eq_ok_iff.mp scanned
  have parsed := mapError_eq_ok_iff.mp parsed
  obtain ⟨_, _, ran⟩ := Traced.outcome_bind_eq_ok_iff.mp ran
  obtain ⟨value', evaluated, ran⟩ := Traced.outcome_bind_eq_ok_iff.mp ran
  cases ran
  exact ⟨tokens, expr, scanned, parsed, mapError_eq_ok_iff.mp evaluated⟩

/-- **A run fails in evaluation only by an operator.** Source text that is read and parsed under
some limits never fails in evaluation under these limits because of its form, its literals or its
depth. -/
theorem ofOperator_of_run (limits : Limits) (source : List Char) (error : EvalError)
    (failed : (run limits source).outcome = .error (.eval error)) : error.OfOperator := by
  obtain ⟨tokens, expr, scanned, parsed, evaluated⟩ := exists_parse_of_run failed
  obtain ⟨_, _, _, shallow⟩ := Parse.exists_derives_of_parse parsed
  have fails : FailsByOperator (evaluate limits expr).outcome :=
    failsByOperator_evaluateAt (literalForm_of_parse scanned parsed) (by omega)
  exact fails.of_error evaluated

/-- A comparison that is shifted, under limits that the source text just meets. -/
theorem ofOperator_of_run_of_shifted_comparison :
    let source := "((2 > 1)) << 4.50".toList
    let failure := EvalError.expectedNumber ['<', '<'] (.bool true)
    (run ⟨2, 3⟩ source).outcome = .error (.eval failure) ∧ failure.OfOperator := by
  intro source failure
  let tokens : List Located := [⟨.openParen, 0⟩, ⟨.openParen, 1⟩, ⟨.number ['2'], 2⟩,
    ⟨.operator .greater, 4⟩, ⟨.number ['1'], 6⟩, ⟨.closeParen, 7⟩, ⟨.closeParen, 8⟩,
    ⟨.operator .shiftLeft, 10⟩, ⟨.number ['4', '.', '5', '0'], 13⟩]
  let expr := Expr.binary .shiftLeft (.binary .greater (.literal ['2']) (.literal ['1']))
    (.literal ['4', '.', '5', '0'])
  have scanned : (tokenize source).outcome = .ok tokens := by decide +kernel
  have parsed : (parse ⟨2, 3⟩ tokens).outcome = .ok expr := by cbv
  have failed : (run ⟨2, 3⟩ source).outcome = .error (.eval failure) := by
    rw [outcome_run_of_parse scanned parsed]
    decide +kernel
  exact ⟨failed, ofOperator_of_run ⟨2, 3⟩ source failure failed⟩

end Calculator
