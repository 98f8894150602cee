import Calculator.Proofs.Evaluation.Failures

/-!
# The nodes that evaluation visits

Evaluation of a node looks at the operands that the node needs, one after another, and at no
others (`Node.needed`). So there is a list of what an evaluation under no limit does: it enters the
node of an expression, does the same for each operand that is needed, and leaves the node
(`View.visits`). The outcome under no limit is `View.outcome`.

A limit on the depth either does not matter or ends the evaluation. If no visit is deeper than the
limit, evaluation has the outcome under no limit and leaves the records of its visits, in order
(`evaluateAt_of_within`). If one is, evaluation fails because of the limit
(`outcome_evaluateAt_of_beyond`), whatever it would find later.

All of this holds of trees and of texts alike, and whether or not the evaluation succeeds.
-/

set_option autoImplicit false

namespace Calculator

variable {α : Type}

/-! ## What a node needs -/

namespace Node

/-- The operands that evaluation of a node looks at, from left to right, given the outcome of each
operand. A logical operator that its left operand settles needs nothing else, a conditional needs
one of its branches, and nothing is looked at after an operand that fails. -/
def needed (outcome : α → Except EvalError Value) : Node α → List α
  | literal _ => []
  | unary _ operand => [operand]
  | binary op left right =>
      left :: match outcome left with
        | .ok value => if (op.settled? value).isSome then [] else [right]
        | .error _ => []
  | conditional condition whenTrue whenFalse =>
      condition :: match outcome condition with
        | .ok value => if value.truthy then [whenTrue] else [whenFalse]
        | .error _ => []

theorem needed_sublist_operands (outcome : α → Except EvalError Value) (node : Node α) :
    (node.needed outcome).Sublist node.operands := by
  cases node with
  | literal digits => exact List.Sublist.refl _
  | unary op operand => exact List.Sublist.refl _
  | binary op left right =>
      refine List.Sublist.cons_cons left ?_
      split
      · split <;> simp
      · simp
  | conditional condition whenTrue whenFalse =>
      refine List.Sublist.cons_cons condition ?_
      split
      · split <;> simp
      · simp

end Node

/-! ## Evaluation under no limit -/

/-- The outcome of an expression under no limit, which is a limit larger than its size. -/
def View.outcome (view : View α) (a : α) : Except EvalError Value :=
  (evaluateAt view { maxDepth := view.size a + 1 } 1 a).outcome

/-- A limit that leaves as many levels as the size of an expression is no limit. -/
theorem outcome_evaluateAt_eq_of_size {view : View α} {limits limits' : Limits} {depth depth' : Nat}
    {a : α} (room : depth + view.size a ≤ limits.maxDepth)
    (room' : depth' + view.size a ≤ limits'.maxDepth) :
    (evaluateAt view limits depth a).outcome = (evaluateAt view limits' depth' a).outcome := by
  induction length : view.size a using Nat.strongRecOn generalizing depth depth' a with
  | ind size ih =>
      cases found : view.node a with
      | error error =>
          rw [evaluateAt_eq, evaluateAt_eq, found, if_neg (by omega), if_neg (by omega)]
          rfl
      | ok node =>
          rw [outcome_evaluateAt_of_node (by omega) found,
            outcome_evaluateAt_of_node (by omega) found]
          refine outcome_evaluateNode_eq_of_related (Node.related_self fun operand member => ?_)
          have smaller := view.size_lt found member
          exact ih _ (length ▸ smaller) (by omega) (by omega) rfl

/-- A node has the outcome that its operands under no limit give it. -/
theorem View.outcome_eq (view : View α) (a : α) :
    view.outcome a = match view.node a with
      | .error error => .error error
      | .ok node =>
          (evaluateNode (fun operand => .ofExcept (view.outcome operand)) node).outcome := by
  cases found : view.node a with
  | error error =>
      rw [View.outcome, evaluateAt_eq, found, if_neg (by simp)]
      rfl
  | ok node =>
      rw [View.outcome, outcome_evaluateAt_of_node (by simp) found]
      refine outcome_evaluateNode_eq_of_related (Node.related_self fun operand member => ?_)
      have smaller := view.size_lt found member
      exact outcome_evaluateAt_eq_of_size (by simp only; omega) (by simp only; omega)

/-! ## Visits -/

/-- A step of an evaluation: it enters the node of an expression, or it leaves the node after the
operands. -/
inductive Visit (α : Type) where
  | enter (depth : Nat) (a : α)
  | leave (depth : Nat) (a : α)
deriving Repr, DecidableEq

/-- The record that a node leaves after its operands: a bitwise operator leaves one if it has a
result. -/
def Node.combined (outcome : α → Except EvalError Value) : Node α → List Record
  | binary op left right =>
      if op.isBitwise then
        match outcome left, outcome right with
        | .ok value, .ok value' =>
            match op.apply value value' with
            | .ok result => [.combined op value value' result]
            | .error _ => []
        | _, _ => []
      else []
  | _ => []

theorem Node.exists_of_mem_combined {outcome : α → Except EvalError Value} {node : Node α}
    {record : Record} (member : record ∈ node.combined outcome) :
    ∃ op left right result, record = .combined op left right result := by
  unfold combined at member
  grind

namespace View

/-- What evaluation of `a` at `depth` visits under no limit. -/
def visits (view : View α) (depth : Nat) (a : α) : List (Visit α) :=
  match _found : view.node a with
  | .error _ => [.enter depth a]
  | .ok node =>
      .enter depth a :: (node.needed view.outcome).attach.flatMap
        (fun operand => visits view (depth + 1) operand.1) ++ [.leave depth a]
termination_by view.size a
decreasing_by
  exact view.size_lt _found ((node.needed_sublist_operands view.outcome).subset operand.2)

/-- The records of a visit. -/
def records (view : View α) : Visit α → List Record
  | .enter depth a => [.entered depth (view.text a)]
  | .leave _ a =>
      match view.node a with
      | .ok node => node.combined view.outcome
      | .error _ => []

variable {view : View α} {depth : Nat} {a : α}

theorem visits_of_error {error : EvalError} (failed : view.node a = .error error) :
    view.visits depth a = [.enter depth a] := by
  rw [visits]
  split
  · rfl
  · rename_i found
    rw [failed] at found
    cases found

theorem visits_of_ok {node : Node α} (found : view.node a = .ok node) :
    view.visits depth a = .enter depth a ::
      (node.needed view.outcome).flatMap (view.visits (depth + 1)) ++ [.leave depth a] := by
  rw [visits]
  split
  · rename_i failed
    rw [found] at failed
    cases failed
  · rename_i other same
    rw [found] at same
    cases same
    rw [List.flatMap_subtype (fun _ _ => rfl), List.unattach_attach]

/-- The nodes that an evaluation enters are its own and those that its needed operands enter. -/
theorem enter_mem_visits_iff {node : Node α} (found : view.node a = .ok node) {level : Nat}
    {part : α} :
    .enter level part ∈ view.visits depth a ↔
      (level = depth ∧ part = a) ∨
        ∃ operand ∈ node.needed view.outcome,
          .enter level part ∈ view.visits (depth + 1) operand := by
  simp [visits_of_ok found]

/-- A node that is entered is so many levels down, and that much smaller. -/
theorem level_add_size_le {level : Nat} {part : α}
    (entered : .enter level part ∈ view.visits depth a) :
    level + view.size part ≤ depth + view.size a := by
  induction size : view.size a using Nat.strongRecOn generalizing depth a with
  | ind bound ih =>
      cases found : view.node a with
      | error error =>
          rw [visits_of_error found, List.mem_singleton] at entered
          cases entered
          omega
      | ok node =>
          rcases (enter_mem_visits_iff found).mp entered with ⟨rfl, rfl⟩ | ⟨operand, needed, inside⟩
          · omega
          · have smaller :=
              view.size_lt found ((node.needed_sublist_operands view.outcome).subset needed)
            have := ih _ (size ▸ smaller) inside rfl
            omega

/-- No level that evaluation of a tree enters is deeper than the tree. -/
theorem level_le_depth {level : Nat} {expr part : Expr}
    (entered : .enter level part ∈ tree.visits 1 expr) : level ≤ expr.depth := by
  have inside : level + part.depth ≤ 1 + expr.depth := level_add_size_le entered
  have := part.depth_pos
  omega

theorem entered_mem_records_iff {visits : List (Visit α)} {level : Nat} {text : List Char} :
    .entered level text ∈ visits.flatMap view.records ↔
      ∃ part, .enter level part ∈ visits ∧ view.text part = text := by
  rw [List.mem_flatMap]
  constructor
  · rintro ⟨visit, member, recorded⟩
    cases visit with
    | enter depth part =>
        rw [records, List.mem_singleton] at recorded
        cases recorded
        exact ⟨part, member, rfl⟩
    | leave depth part =>
        rw [records] at recorded
        split at recorded
        · obtain ⟨op, left, right, result, impossible⟩ := Node.exists_of_mem_combined recorded
          cases impossible
        · cases recorded
  · rintro ⟨part, member, rfl⟩
    exact ⟨_, member, List.mem_singleton_self _⟩

end View

/-! ## One level -/

/-- An operator that its left operand settles is no bitwise operator. -/
theorem BinaryOperator.not_isBitwise_of_settled? {op : BinaryOperator} {left result : Value}
    (settled : op.settled? left = some result) : op.isBitwise = false := by
  cases bitwise : op.isBitwise with
  | false => rfl
  | true =>
      rw [settled?_of_not_isLogical (isLogical_of_isBitwise bitwise)] at settled
      cases settled

/-- A node whose needed operands evaluate as they do under no limit does so too. -/
theorem evaluateNode_eq_of_needed {next : α → Traced EvalError Value}
    {outcome : α → Except EvalError Value} {records : α → List Record} {node : Node α}
    (each : ∀ operand ∈ node.needed outcome,
      next operand = ⟨records operand, outcome operand⟩) :
    evaluateNode next node =
      ⟨(node.needed outcome).flatMap records ++ node.combined outcome,
        (evaluateNode (fun operand => .ofExcept (outcome operand)) node).outcome⟩ := by
  cases node with
  | literal digits => rfl
  | unary op operand =>
      have first := each operand (by simp [Node.needed])
      cases evaluated : outcome operand <;>
        simp [evaluateNode, first, evaluated, Node.needed, Node.combined, Traced.ofExcept,
          Traced.bind_mk_ok, Traced.bind_mk_error]
  | binary op left right =>
      have first := each left (by simp [Node.needed])
      cases evaluated : outcome left with
      | error error =>
          simp [evaluateNode, first, evaluated, Node.needed, Node.combined, Traced.ofExcept,
            Traced.bind_mk_error]
      | ok value =>
          cases settled : op.settled? value with
          | some result =>
              simp [evaluateNode, first, evaluated, settled, Node.needed, Node.combined,
                BinaryOperator.not_isBitwise_of_settled? settled, Traced.ofExcept,
                Traced.bind_mk_ok]
          | none =>
              have second := each right (by simp [Node.needed, evaluated, settled])
              cases evaluated' : outcome right with
              | error error =>
                  simp [evaluateNode, first, second, evaluated, evaluated', settled, Node.needed,
                    Node.combined, Traced.ofExcept, Traced.bind_mk_ok, Traced.bind_mk_error]
              | ok value' =>
                  cases applied : op.apply value value' <;>
                    by_cases bitwise : op.isBitwise = true <;>
                    simp [evaluateNode, first, second, evaluated, evaluated', settled, applied,
                      bitwise, Node.needed, Node.combined, Traced.ofExcept, Traced.log,
                      Traced.bind_mk_ok, Traced.bind_mk_error, -bind_pure_comp]
  | conditional condition whenTrue whenFalse =>
      have first := each condition (by simp [Node.needed])
      cases evaluated : outcome condition with
      | error error =>
          simp [evaluateNode, first, evaluated, Node.needed, Node.combined, Traced.ofExcept,
            Traced.bind_mk_error]
      | ok value =>
          by_cases truth : value.truthy = true
          · have second := each whenTrue (by simp [Node.needed, evaluated, truth])
            simp [evaluateNode, first, second, evaluated, truth, Node.needed, Node.combined,
              Traced.ofExcept, Traced.bind_mk_ok]
          · have second := each whenFalse (by simp [Node.needed, evaluated, truth])
            simp [evaluateNode, first, second, evaluated, truth, Node.needed, Node.combined,
              Traced.ofExcept, Traced.bind_mk_ok]

/-- A node fails as the first of its needed operands that fails otherwise than under no limit. -/
theorem outcome_evaluateNode_eq_error {next : α → Traced EvalError Value}
    {outcome : α → Except EvalError Value} {error : EvalError} {node : Node α}
    (each : ∀ operand ∈ node.needed outcome,
      (next operand).outcome = outcome operand ∨ (next operand).outcome = .error error)
    (fails : ∃ operand ∈ node.needed outcome, (next operand).outcome = .error error) :
    (evaluateNode next node).outcome = .error error := by
  -- A node looks at its first operand first, and at another one only with the value of the first.
  have of_first {first : α} {rest : Value → Traced EvalError Value}
      (failed : (next first).outcome = .error error) :
      (next first >>= rest).outcome = .error error :=
    Traced.outcome_bind_eq_error_iff.mpr (.inl failed)
  cases node with
  | literal digits =>
      obtain ⟨operand, member, _⟩ := fails
      cases member
  | unary op operand =>
      obtain ⟨operand', member, failed⟩ := fails
      rw [Node.needed, List.mem_singleton] at member
      exact of_first (member ▸ failed)
  | binary op left right =>
      by_cases first : (next left).outcome = .error error
      · exact of_first first
      have same := (each left (by simp [Node.needed])).resolve_right first
      obtain ⟨operand, member, failed⟩ := fails
      simp only [Node.needed, List.mem_cons] at member
      rcases member with rfl | member
      · exact absurd failed first
      split at member
      · rename_i value evaluated
        split at member
        · cases member
        · rename_i settled
          rw [List.mem_singleton] at member
          rw [Bool.not_eq_true, Option.isSome_eq_false_iff, Option.isNone_iff_eq_none] at settled
          rw [evaluateNode, Traced.outcome_bind_of_eq_ok (same.trans evaluated), settled]
          exact of_first (member ▸ failed)
      · cases member
  | conditional condition whenTrue whenFalse =>
      by_cases first : (next condition).outcome = .error error
      · exact of_first first
      have same := (each condition (by simp [Node.needed])).resolve_right first
      obtain ⟨operand, member, failed⟩ := fails
      simp only [Node.needed, List.mem_cons] at member
      rcases member with rfl | member
      · exact absurd failed first
      split at member
      · rename_i value evaluated
        rw [evaluateNode, Traced.outcome_bind_of_eq_ok (same.trans evaluated)]
        split at member
        · rename_i truth
          rw [List.mem_singleton] at member
          rw [if_pos truth, ← member, failed]
        · rename_i falsehood
          rw [List.mem_singleton] at member
          rw [if_neg falsehood, ← member, failed]
      · cases member

/-! ## A limit on the depth -/

/-- **A limit that no visit exceeds does not matter.** -/
theorem evaluateAt_of_within {view : View α} {limits : Limits} {depth : Nat} {a : α}
    (within : ∀ level part, .enter level part ∈ view.visits depth a → level ≤ limits.maxDepth) :
    evaluateAt view limits depth a =
      ⟨(view.visits depth a).flatMap view.records, view.outcome a⟩ := by
  induction size : view.size a using Nat.strongRecOn generalizing depth a with
  | ind bound ih =>
      rw [evaluateAt_eq, View.outcome_eq]
      cases found : view.node a with
      | error error =>
          rw [View.visits_of_error found] at within ⊢
          have allowed : depth ≤ limits.maxDepth := within depth a (by simp)
          rw [if_neg (by omega)]
          simp [View.records, Traced.log, Traced.bind_mk_ok]
      | ok node =>
          have allowed : depth ≤ limits.maxDepth :=
            within depth a ((View.enter_mem_visits_iff found).mpr (.inl ⟨rfl, rfl⟩))
          have each : ∀ operand ∈ node.needed view.outcome,
              evaluateAt view limits (depth + 1) operand =
                ⟨(view.visits (depth + 1) operand).flatMap view.records, view.outcome operand⟩ := by
            intro operand needed
            have smaller :=
              view.size_lt found ((node.needed_sublist_operands view.outcome).subset needed)
            refine ih _ (size ▸ smaller) (fun level part inside => ?_) rfl
            exact within level part
              ((View.enter_mem_visits_iff found).mpr (.inr ⟨operand, needed, inside⟩))
          rw [if_neg (by omega)]
          simp only [evaluateNode_eq_of_needed each, Traced.log, Traced.bind_mk_ok]
          simp [View.visits_of_ok found, View.records, found, List.flatMap_assoc]

/-- A tree that is no deeper than the limit has the outcome that it has under no limit. -/
theorem outcome_evaluate_of_depth_le {limits : Limits} {expr : Expr}
    (shallow : expr.depth ≤ limits.maxDepth) :
    (evaluate limits expr).outcome = View.tree.outcome expr := by
  have within (level : Nat) (part : Expr) (entered : .enter level part ∈ View.tree.visits 1 expr) :
      level ≤ limits.maxDepth :=
    Nat.le_trans (View.level_le_depth entered) shallow
  rw [evaluate, evaluateAt_of_within within]

/-- **A limit that a visit exceeds ends the evaluation.** -/
theorem outcome_evaluateAt_of_beyond {view : View α} {limits : Limits} {depth : Nat} {a : α}
    {level : Nat} {part : α} (entered : .enter level part ∈ view.visits depth a)
    (beyond : limits.maxDepth < level) :
    (evaluateAt view limits depth a).outcome = .error (.tooDeep limits.maxDepth) := by
  induction size : view.size a using Nat.strongRecOn generalizing depth a level part with
  | ind bound ih =>
      by_cases allowed : depth ≤ limits.maxDepth
      case neg =>
        rw [evaluateAt_eq, if_pos (by omega)]
        rfl
      cases found : view.node a with
      | error error =>
          rw [View.visits_of_error found, List.mem_singleton] at entered
          cases entered
          omega
      | ok node =>
          have ends (operand : α) (needed : operand ∈ node.needed view.outcome) {level : Nat}
              {part : α} (inside : .enter level part ∈ view.visits (depth + 1) operand)
              (beyond : limits.maxDepth < level) :
              (evaluateAt view limits (depth + 1) operand).outcome =
                .error (.tooDeep limits.maxDepth) := by
            have smaller :=
              view.size_lt found ((node.needed_sublist_operands view.outcome).subset needed)
            exact ih _ (size ▸ smaller) inside beyond rfl
          rw [outcome_evaluateAt_of_node allowed found]
          apply outcome_evaluateNode_eq_error
          · intro operand needed
            by_cases within : ∀ level part, .enter level part ∈ view.visits (depth + 1) operand →
                level ≤ limits.maxDepth
            · exact .inl (congrArg Traced.outcome (evaluateAt_of_within within))
            · push Not at within
              obtain ⟨_, _, inside, deep⟩ := within
              exact .inr (ends operand needed inside deep)
          · rcases (View.enter_mem_visits_iff found).mp entered with
              ⟨rfl, _⟩ | ⟨operand, needed, inside⟩
            · omega
            · exact ⟨operand, needed, ends operand needed inside beyond⟩

end Calculator
