import Calculator.Proofs.Evaluation.Visits

/-!
# Chains of logical operators

A chain joins several operands by one logical operator. However its parentheses stand, it is
settled by the first operand that fails or whose truth value decides: one that is false in a chain
of `&&`, and one that is true in a chain of `||` (`Bracketing.outcome_tree`). The operands after it
are not needed. So the outcome of a chain depends on its operands and their order alone, although
each operator inside it makes a truth value of what it finds.

The same truth value results when the operands are evaluated first and the operator is then applied
to their values, in any grouping (`Bracketing.combine`).
-/

set_option autoImplicit false

namespace Calculator

/-! ## Groupings of a sequence -/

/-- A grouping of a sequence into pairs: its operands in order, with parentheses. -/
inductive Bracketing (α : Type) where
  | operand (a : α)
  | pair (left right : Bracketing α)
deriving Repr, DecidableEq

namespace Bracketing

/-- The sequence that is grouped, from left to right. -/
def operands {α : Type} : Bracketing α → List α
  | operand a => [a]
  | pair left right => left.operands ++ right.operands

/-- The expression that joins the operands by an operator, grouped so. -/
def tree (op : BinaryOperator) : Bracketing Expr → Expr
  | operand expr => expr
  | pair left right => .binary op (left.tree op) (right.tree op)

/-- The result of applying an operator to values, grouped so. -/
def combine (op : BinaryOperator) : Bracketing Value → Except EvalError Value
  | operand value => .ok value
  | pair left right => do op.apply (← left.combine op) (← right.combine op)

/-- A sequence of several operands is grouped into a pair. -/
theorem exists_pair {α : Type} {chain : Bracketing α} (several : 2 ≤ chain.operands.length) :
    ∃ left right, chain = .pair left right := by
  cases chain with
  | operand a => simp [operands] at several
  | pair left right => exact ⟨left, right, rfl⟩

/-- No operand of a chain is deeper than the chain. -/
theorem depth_le_of_mem_operands {op : BinaryOperator} {chain : Bracketing Expr} {expr : Expr}
    (member : expr ∈ chain.operands) : expr.depth ≤ (chain.tree op).depth := by
  induction chain with
  | operand a =>
      rw [List.mem_singleton.mp member]
      exact Nat.le_refl _
  | pair left right ihLeft ihRight =>
      simp only [tree, Expr.depth]
      rcases List.mem_append.mp member with inside | inside
      · have := ihLeft inside
        omega
      · have := ihRight inside
        omega

end Bracketing

/-! ## One logical operator -/

/-- The truth value of a value, as a value. -/
def Value.truth (value : Value) : Value :=
  .bool value.truthy

namespace BinaryOperator

variable {op : BinaryOperator}

/-- The truth value after which a chain of the operator goes on. The other one decides it. -/
def neutral : BinaryOperator → Bool
  | and => true
  | _ => false

theorem settled?_eq_of_isLogical (logical : op.isLogical = true) (left : Value) :
    op.settled? left = if left.truthy = op.neutral then none else some left.truth := by
  cases op <;> cases logical <;> cases truth : left.truthy <;>
    simp [settled?, neutral, truth, Value.truth]

/-- A logical operator gives the truth value of its left operand if that decides, and otherwise that
of its right operand. -/
theorem apply_eq_of_isLogical (logical : op.isLogical = true) (left right : Value) :
    op.apply left right = .ok (if left.truthy = op.neutral then right.truth else left.truth) := by
  cases op <;> cases logical <;> cases truth : left.truthy <;>
    simp [apply, neutral, truth, Value.truth]

/-- An operand with this outcome ends a chain of the operator: it fails, or its truth value
decides. -/
def ends (op : BinaryOperator) : Except EvalError Value → Bool
  | .ok value => value.truthy != op.neutral
  | .error _ => true

/-- The outcome of a chain, from the outcomes of its operands: the failure or the truth value of the
first operand that ends the chain, or the neutral truth value if none does. -/
def chainOutcome (op : BinaryOperator) (outcomes : List (Except EvalError Value)) :
    Except EvalError Value :=
  match outcomes.find? op.ends with
  | some outcome => outcome.map Value.truth
  | none => .ok (.bool op.neutral)

theorem chainOutcome_singleton (outcome : Except EvalError Value) :
    op.chainOutcome [outcome] = outcome.map Value.truth := by
  cases outcome with
  | error error => rfl
  | ok value =>
      by_cases undecided : value.truthy = op.neutral
      · simp [chainOutcome, ends, undecided, Except.map, Value.truth]
      · simp [chainOutcome, ends, undecided]

/-- A chain goes on with the operands after its first ones only if these do not end it. -/
theorem chainOutcome_append (first second : List (Except EvalError Value)) :
    op.chainOutcome (first ++ second) = (op.chainOutcome first >>= fun value =>
      if value.truthy = op.neutral then op.chainOutcome second else .ok value) := by
  rw [chainOutcome, List.find?_append, chainOutcome]
  cases found : first.find? op.ends with
  | none =>
      change op.chainOutcome second = if op.neutral = op.neutral then _ else _
      rw [if_pos rfl]
  | some outcome =>
      have ending := List.find?_some found
      cases outcome with
      | error error => rfl
      | ok value =>
          have decided : ¬ value.truthy = op.neutral := by simpa [ends] using ending
          change Except.ok value.truth = if value.truthy = op.neutral then _ else _
          rw [if_neg decided]

/-- The outcome of a chain is a truth value, or a failure. -/
theorem chainOutcome_map_truth (outcomes : List (Except EvalError Value)) :
    (op.chainOutcome outcomes).map Value.truth = op.chainOutcome outcomes := by
  rw [chainOutcome]
  split
  · rename_i outcome _
    cases outcome <;> rfl
  · rfl

end BinaryOperator

/-- A logical operator decides by its left operand, or has the truth value of its right one. -/
theorem outcome_evaluateNode_of_isLogical {α : Type} {op : BinaryOperator}
    (logical : op.isLogical = true) (next : α → Traced EvalError Value) (left right : α) :
    (evaluateNode next (.binary op left right)).outcome = ((next left).outcome.map Value.truth >>=
      fun value => if value.truthy = op.neutral then (next right).outcome.map Value.truth
        else .ok value) := by
  have notBitwise : op.isBitwise = false := by
    cases op <;> first | rfl | cases logical
  cases first : (next left).outcome with
  | error error =>
      rw [evaluateNode, Traced.outcome_bind, first]
      rfl
  | ok value =>
      rw [evaluateNode, Traced.outcome_bind_of_eq_ok first,
        BinaryOperator.settled?_eq_of_isLogical logical]
      change _ = if value.truthy = op.neutral then _ else _
      by_cases undecided : value.truthy = op.neutral
      · rw [if_pos undecided, if_pos undecided]
        cases second : (next right).outcome with
        | error error =>
            rw [Traced.outcome_bind, second]
            rfl
        | ok value' =>
            rw [Traced.outcome_bind_of_eq_ok second,
              BinaryOperator.apply_eq_of_isLogical logical, if_pos undecided, notBitwise]
            rfl
      · rw [if_neg undecided, if_neg undecided]
        rfl

/-- The outcome of a logical operator in a tree. -/
theorem outcome_binary_of_isLogical {op : BinaryOperator} (logical : op.isLogical = true)
    (left right : Expr) :
    View.tree.outcome (.binary op left right) = ((View.tree.outcome left).map Value.truth >>=
      fun value => if value.truthy = op.neutral then (View.tree.outcome right).map Value.truth
        else .ok value) := by
  rw [View.outcome_eq]
  exact outcome_evaluateNode_of_isLogical logical _ left right

/-! ## Chains -/

namespace Bracketing

variable {op : BinaryOperator}

/-- The truth value of a chain, grouped in any way, is found from its operands in order. -/
theorem outcome_tree_map_truth (logical : op.isLogical = true) (chain : Bracketing Expr) :
    (View.tree.outcome (chain.tree op)).map Value.truth =
      op.chainOutcome (chain.operands.map View.tree.outcome) := by
  induction chain with
  | operand expr => exact (BinaryOperator.chainOutcome_singleton _).symm
  | pair left right ihLeft ihRight =>
      rw [tree, outcome_binary_of_isLogical logical, ihLeft, ihRight,
        ← BinaryOperator.chainOutcome_append, BinaryOperator.chainOutcome_map_truth, operands,
        List.map_append]

/-- A chain of several operands has a truth value, or it fails. -/
theorem outcome_tree (logical : op.isLogical = true) {chain : Bracketing Expr}
    (several : 2 ≤ chain.operands.length) :
    View.tree.outcome (chain.tree op) =
      op.chainOutcome (chain.operands.map View.tree.outcome) := by
  obtain ⟨left, right, rfl⟩ := exists_pair several
  rw [tree, outcome_binary_of_isLogical logical, outcome_tree_map_truth logical,
    outcome_tree_map_truth logical, operands, List.map_append, BinaryOperator.chainOutcome_append]

/-- Values are combined to the truth value of their chain, except where there is only one. -/
theorem exists_combine (logical : op.isLogical = true) (values : Bracketing Value) :
    ∃ value, values.combine op = .ok value ∧
      op.chainOutcome (values.operands.map .ok) = .ok value.truth ∧
        (2 ≤ values.operands.length → value.truth = value) := by
  induction values with
  | operand value =>
      exact ⟨value, rfl, BinaryOperator.chainOutcome_singleton _, fun several => by
        simp [operands] at several⟩
  | pair left right ihLeft ihRight =>
      obtain ⟨value, combined, same, _⟩ := ihLeft
      obtain ⟨value', combined', same', _⟩ := ihRight
      refine ⟨if value.truthy = op.neutral then value'.truth else value.truth, ?_, ?_, fun _ => ?_⟩
      · rw [combine, combined, combined']
        exact BinaryOperator.apply_eq_of_isLogical logical value value'
      · rw [operands, List.map_append, BinaryOperator.chainOutcome_append, same, same']
        change (if value.truthy = op.neutral then _ else _) = _
        split <;> rfl
      · split <;> rfl

end Bracketing

/-- **A chain stops at the operand that decides it.** A chain of several operands, joined by `&&` or
by `||` and grouped in any way, has the outcome of its operands in order: the failure of the first
one that fails or has the deciding truth value, or that truth value, or else the other truth value.
So every grouping of the operands has this outcome. If all operands have values, the operator that
is applied to these in any grouping gives it too. -/
theorem chain_stops_at_deciding_operand (limits : Limits) (op : BinaryOperator)
    (logical : op.isLogical = true) (chain : Bracketing Expr)
    (several : 2 ≤ chain.operands.length) (shallow : (chain.tree op).depth ≤ limits.maxDepth) :
    (evaluate limits (chain.tree op)).outcome =
        op.chainOutcome (chain.operands.map fun expr => (evaluate limits expr).outcome) ∧
      (∀ other : Bracketing Expr, other.operands = chain.operands →
        (other.tree op).depth ≤ limits.maxDepth →
          (evaluate limits (other.tree op)).outcome = (evaluate limits (chain.tree op)).outcome) ∧
      ∀ values : Bracketing Value, List.Forall₂ (fun expr value =>
          (evaluate limits expr).outcome = .ok value) chain.operands values.operands →
        values.combine op = (evaluate limits (chain.tree op)).outcome := by
  have operandwise : chain.operands.map (fun expr => (evaluate limits expr).outcome) =
      chain.operands.map View.tree.outcome :=
    List.map_congr_left fun expr member => outcome_evaluate_of_depth_le
      (Nat.le_trans (Bracketing.depth_le_of_mem_operands member) shallow)
  have whole : (evaluate limits (chain.tree op)).outcome =
      op.chainOutcome (chain.operands.map fun expr => (evaluate limits expr).outcome) := by
    rw [outcome_evaluate_of_depth_le shallow, Bracketing.outcome_tree logical several, operandwise]
  refine ⟨whole, ?_, ?_⟩
  · intro other same shallow'
    rw [whole, operandwise, outcome_evaluate_of_depth_le shallow',
      Bracketing.outcome_tree logical (same ▸ several), same]
  · intro values each
    obtain ⟨value, combined, same, truth⟩ := Bracketing.exists_combine logical values
    rw [whole, map_eq_map_of_forall₂ each, combined, same, truth (each.length_eq ▸ several)]

/-- A chain of `||` fails by its second operand, which writes no number, before the third one
decides it, and a chain of `&&` over the same operands is decided by its first one. With a number in
the second place the chain of `||` is true, and so is what the operator makes of the three
values. -/
theorem chain_stops_at_deciding_operand_of_groupings :
    let literal (c : Char) : Bracketing Expr := .operand (.literal [c])
    let toRight (c : Char) : Bracketing Expr :=
      .pair (literal '0') (.pair (literal c) (literal '3'))
    let toLeft (c : Char) : Bracketing Expr :=
      .pair (.pair (literal '0') (literal c)) (literal '3')
    let value (c : Char) : Bracketing Value := .operand (.number (Number.ofLiteral [c]))
    let values : Bracketing Value := .pair (.pair (value '0') (value '7')) (value '3')
    (evaluate ⟨0, 3⟩ ((toRight 'x').tree .or)).outcome = .error (.invalidLiteral ['x']) ∧
      (evaluate ⟨0, 3⟩ ((toLeft 'x').tree .or)).outcome = .error (.invalidLiteral ['x']) ∧
      (evaluate ⟨0, 3⟩ ((toRight 'x').tree .and)).outcome = .ok (.bool false) ∧
      (evaluate ⟨0, 3⟩ ((toRight '7').tree .or)).outcome = .ok (.bool true) ∧
      values.combine .or = .ok (.bool true) := by
  intro literal toRight toLeft value values
  obtain ⟨failing, regrouped, _⟩ :=
    chain_stops_at_deciding_operand ⟨0, 3⟩ .or rfl (toRight 'x') (by decide) (by decide)
  obtain ⟨decided, _⟩ :=
    chain_stops_at_deciding_operand ⟨0, 3⟩ .and rfl (toRight 'x') (by decide) (by decide)
  obtain ⟨truth, _, combined⟩ :=
    chain_stops_at_deciding_operand ⟨0, 3⟩ .or rfl (toRight '7') (by decide) (by decide)
  have first : (evaluate ⟨0, 3⟩ ((toRight 'x').tree .or)).outcome =
      .error (.invalidLiteral ['x']) := by
    rw [failing]
    decide +kernel
  have last : (evaluate ⟨0, 3⟩ ((toRight '7').tree .or)).outcome = .ok (.bool true) := by
    rw [truth]
    decide +kernel
  refine ⟨first, ?_, ?_, last, ?_⟩
  · rw [regrouped (toLeft 'x') rfl (by decide), first]
  · rw [decided]
    decide +kernel
  · rw [combined values ?_, last]
    exact .cons (by decide +kernel) (.cons (by decide +kernel) (.cons (by decide +kernel) .nil))

end Calculator
