import Calculator.Evaluation
import Calculator.Proofs.Encoding.Forms
import Calculator.Proofs.Outcome

/-!
# Evaluation of a tree and of its encoded form

Evaluation looks at one node and goes on to the operands that the node needs
(`evaluateAt_eq`). Two views on which the needed operands evaluate alike evaluate
alike (`evaluateNode_eq_of_related`).

The encoded form of a tree reads, level by level, as the tree itself, as long as
the texts of its literals can be told apart from the marks of the encoding
(`Encoding.read_encode`). So evaluation of the encoded form takes the steps that
evaluation of the tree takes, leaves the same records and ends in the same way,
whether or not the literals write numbers and however deep the tree is
(`evaluateEncoded_encode`).
-/

set_option autoImplicit false

namespace Calculator

/-! ## One level of an evaluation -/

section Level

variable {α β : Type}

/-- The value of a node, given how operands are evaluated. -/
def evaluateNode (next : α → Traced EvalError Value) : Node α → Traced EvalError Value
  | .literal digits => .ofExcept (Value.ofLiteral digits)
  | .unary op operand => do
      let operand ← next operand
      .ofExcept (op.apply operand)
  | .binary op left right => do
      let left ← next left
      match op.settled? left with
      | some result => return result
      | none =>
          let right ← next right
          let result ← .ofExcept (op.apply left right)
          if op.isBitwise then .log (.combined op left right result)
          return result
  | .conditional condition whenTrue whenFalse => do
      let condition ← next condition
      if condition.truthy then next whenTrue else next whenFalse

/-- Evaluation checks the depth, leaves a record, looks at the node and evaluates the operands that
it needs one level deeper. -/
theorem evaluateAt_eq (view : View α) (limits : Limits) (depth : Nat) (a : α) :
    evaluateAt view limits depth a =
      (if limits.maxDepth < depth then .fail (.tooDeep limits.maxDepth)
      else do
        .log (.entered depth (view.text a))
        match view.node a with
        | .error error => .fail error
        | .ok node => evaluateNode (evaluateAt view limits (depth + 1)) node) := by
  rw [evaluateAt]
  split
  · rfl
  · congr 1
    funext _
    split
    · rename_i failed
      rw [failed]
    all_goals
      rename_i found
      rw [found]
      rfl

/-- Related nodes evaluate alike when their operands do in pairs. -/
theorem evaluateNode_eq_of_related {next : α → Traced EvalError Value}
    {next' : β → Traced EvalError Value} {node : Node α} {node' : Node β}
    (same : node.Related (fun a b => next a = next' b) node') :
    evaluateNode next node = evaluateNode next' node' := by
  cases same with
  | literal digits => rfl
  | unary op operand => simp only [evaluateNode, operand]
  | binary op left right => simp only [evaluateNode, left, right]
  | conditional condition whenTrue whenFalse =>
      simp only [evaluateNode, condition, whenTrue, whenFalse]

/-- Related nodes have the same outcome when their operands do in pairs. The records may differ. -/
theorem outcome_evaluateNode_eq_of_related {next : α → Traced EvalError Value}
    {next' : β → Traced EvalError Value} {node : Node α} {node' : Node β}
    (same : node.Related (fun a b => (next a).outcome = (next' b).outcome) node') :
    (evaluateNode next node).outcome = (evaluateNode next' node').outcome := by
  cases same with
  | literal digits => rfl
  | unary op operand => simp only [evaluateNode, Traced.outcome_bind, operand]
  | binary op left right =>
      simp only [evaluateNode, Traced.outcome_bind, left]
      congr 1
      funext value
      split
      · rfl
      · simp only [Traced.outcome_bind, right]
  | conditional condition whenTrue whenFalse =>
      simp only [evaluateNode, Traced.outcome_bind, condition, apply_ite, whenTrue, whenFalse]

/-- Evaluation at an allowed depth has the outcome of the node. -/
theorem outcome_evaluateAt_of_node {view : View α} {limits : Limits} {depth : Nat} {a : α}
    {node : Node α} (allowed : depth ≤ limits.maxDepth) (found : view.node a = .ok node) :
    (evaluateAt view limits depth a).outcome =
      (evaluateNode (evaluateAt view limits (depth + 1)) node).outcome := by
  rw [evaluateAt_eq, if_neg (by omega), Traced.outcome_bind_of_eq_ok (Traced.outcome_log _), found]

/-- Two expressions have the same outcome at a depth when their nodes have. -/
theorem outcome_evaluateAt_eq_of_nodes {view : View α} {view' : View β} {limits : Limits}
    {depth : Nat} {a : α} {b : β} {node : Node α} {node' : Node β} (found : view.node a = .ok node)
    (found' : view'.node b = .ok node')
    (same : (evaluateNode (evaluateAt view limits (depth + 1)) node).outcome =
      (evaluateNode (evaluateAt view' limits (depth + 1)) node').outcome) :
    (evaluateAt view limits depth a).outcome = (evaluateAt view' limits depth b).outcome := by
  by_cases allowed : depth ≤ limits.maxDepth
  · rw [outcome_evaluateAt_of_node allowed found, outcome_evaluateAt_of_node allowed found', same]
  · rw [evaluateAt_eq, evaluateAt_eq, if_pos (by omega), if_pos (by omega)]

end Level

/-! ## Encoded texts -/

/-- Blanks around a text do not matter to the outcome. -/
theorem outcome_evaluateAt_trim (limits : Limits) (depth : Nat) (text : List Char) :
    (evaluateAt .encoded limits depth (Text.trim text)).outcome =
      (evaluateAt .encoded limits depth text).outcome := by
  have same : View.encoded.node (Text.trim text) = View.encoded.node text := Encoding.read_trim text
  rw [evaluateAt_eq, evaluateAt_eq, same]
  split
  · rfl
  · rw [Traced.outcome_bind_of_eq_ok (Traced.outcome_log _),
      Traced.outcome_bind_of_eq_ok (Traced.outcome_log _)]

/-- At every depth, the two views of a tree with legible literals evaluate alike. -/
theorem evaluateAt_encoded_encode {expr : Expr}
    (legible : ∀ digits ∈ expr.literals, Legible digits) (limits : Limits) (depth : Nat) :
    evaluateAt .encoded limits depth expr.encode = evaluateAt .tree limits depth expr := by
  induction expr using Expr.induct_operands generalizing depth with
  | step expr ih =>
      have alike : (expr.node.map Expr.encode).Related (fun text operand =>
          evaluateAt .encoded limits (depth + 1) text =
            evaluateAt .tree limits (depth + 1) operand) expr.node := by
        refine Node.related_map _ fun operand member => ih operand member ?_ (depth + 1)
        intro digits inside
        exact legible digits (Expr.mem_literals_of_mem_operands member inside)
      rw [evaluateAt_eq, evaluateAt_eq]
      simp only [View.encoded, View.tree, id_eq, Encoding.read_encode legible]
      rw [← View.encoded, ← View.tree, evaluateNode_eq_of_related alike]

/-- **A tree and its encoded form evaluate alike.** They have the same value or fail with the same
error, and they leave the same records in the same order, at every limit. An operand that is not
needed may be too deep or hold a literal that writes no number. -/
theorem evaluateEncoded_encode (limits : Limits) (expr : Expr)
    (legible : ∀ digits ∈ expr.literals, Legible digits) :
    evaluateEncoded limits expr.encode = evaluate limits expr :=
  evaluateAt_encoded_encode legible limits 1

/-- A choice that does not need an operand which is too deep and holds a literal that writes no
number. Decoding refuses the encoded form, and evaluation does not. -/
theorem evaluateEncoded_encode_of_skipped_operand :
    let skipped := Expr.unary .minus (.unary .plus (.literal ['x']))
    let choice := Expr.conditional (.literal ['0']) skipped (.literal ['7'])
    (∀ digits ∈ choice.literals, Legible digits) ∧
      evaluateEncoded ⟨0, 2⟩ choice.encode = evaluate ⟨0, 2⟩ choice ∧
        (evaluate ⟨0, 2⟩ choice).outcome = .ok (.number (Number.ofLiteral ['7'])) ∧
          Encoding.decode ⟨0, 2⟩ choice.encode = .error (.tooDeep 2) := by
  intro skipped choice
  have legible : ∀ digits ∈ choice.literals, Legible digits := by decide
  refine ⟨legible, evaluateEncoded_encode ⟨0, 2⟩ choice legible, ?_, ?_⟩
  · decide +kernel
  · decide +kernel

end Calculator
