import Calculator.Proofs.Evaluation.Failures

/-!
# Kinds

A value is a number or a truth value, and where an operator wants a number a truth value is an
error. The rules of `Expr.HasKind` find from an expression alone which of the two its value is. They
are sound: an expression of a kind never fails because of a truth value in the place of a number,
and its value, if it has one, is of that kind (`Expr.HasKind.keepsKind_evaluateAt`). A truth value
is wanted in four places, and there a number stands for it, so that an operand of any kind will do.

In the other direction, an operator that wants numbers never gets past an operand that cannot be one
(`outcome_evaluate_ne_ok`). A comparison of a comparison is such a case, and it is how a chain of
comparisons is parsed (`kinds_are_sound`).
-/

set_option autoImplicit false

namespace Calculator

variable {α : Type}

/-- What a value is. -/
inductive Kind where
  | number
  | bool
deriving Repr, DecidableEq

/-- The kind of a value. -/
def Value.kind : Value → Kind
  | number _ => .number
  | bool _ => .bool

theorem Value.exists_number {value : Value} (number : value.kind = .number) :
    ∃ x, value = .number x := by
  cases value with
  | number x => exact ⟨x, rfl⟩
  | bool b => cases number

/-- The rules that give expressions their kinds. An expression to which no rule applies has none. -/
inductive Expr.HasKind : Expr → Kind → Prop where
  | literal (digits : List Char) : HasKind (.literal digits) .number
  | sign {op : UnaryOperator} {operand : Expr} (signs : op ≠ .not)
      (number : HasKind operand .number) : HasKind (.unary op operand) .number
  | negation {operand : Expr} {kind : Kind} (kinded : HasKind operand kind) :
      HasKind (.unary .not operand) .bool
  | computation {op : BinaryOperator} {left right : Expr}
      (computes : op.isLogical = false ∧ op.isComparison = false)
      (leftNumber : HasKind left .number) (rightNumber : HasKind right .number) :
      HasKind (.binary op left right) .number
  | comparison {op : BinaryOperator} {left right : Expr} (compares : op.isComparison = true)
      (leftNumber : HasKind left .number) (rightNumber : HasKind right .number) :
      HasKind (.binary op left right) .bool
  | logical {op : BinaryOperator} {left right : Expr} {kind kind' : Kind}
      (logical : op.isLogical = true) (leftKinded : HasKind left kind)
      (rightKinded : HasKind right kind') : HasKind (.binary op left right) .bool
  | choice {condition whenTrue whenFalse : Expr} {kind chosen : Kind}
      (conditionKinded : HasKind condition kind) (trueKinded : HasKind whenTrue chosen)
      (falseKinded : HasKind whenFalse chosen) :
      HasKind (.conditional condition whenTrue whenFalse) chosen

/-- The failure is not that of a truth value in the place of a number. -/
def EvalError.NotOfKind (error : EvalError) : Prop :=
  ∀ operator found, error ≠ .expectedNumber operator found

/-- The outcome is a value of the kind, or a failure for another reason than a kind. -/
abbrev KeepsKind (kind : Kind) (outcome : Except EvalError Value) : Prop :=
  Ensures outcome (fun value => value.kind = kind) EvalError.NotOfKind

/-! ## Operators -/

section Operators

variable {kind : Kind} {left right : Value}

theorem UnaryOperator.keepsKind_sign {op : UnaryOperator} {operand : Value} (signs : op ≠ .not)
    (number : operand.kind = .number) : KeepsKind .number (op.apply operand) := by
  obtain ⟨x, rfl⟩ := Value.exists_number number
  cases op with
  | plus => exact rfl
  | minus => exact rfl
  | not => exact absurd rfl signs

namespace BinaryOperator

theorem keepsKind_numbers {op : BinaryOperator} {compute : Float → Float → Except EvalError Value}
    (leftNumber : left.kind = .number) (rightNumber : right.kind = .number)
    (each : ∀ x y, KeepsKind kind (compute x y)) :
    KeepsKind kind (apply.numbers op left right compute) := by
  obtain ⟨x, rfl⟩ := Value.exists_number leftNumber
  obtain ⟨y, rfl⟩ := Value.exists_number rightNumber
  exact each x y

theorem notOfKind_asNatural (op : BinaryOperator) (x : Float) :
    Ensures (op.asNatural x) (fun _ => True) EvalError.NotOfKind := by
  unfold asNatural
  split
  · trivial
  · intro operator found impossible
    cases impossible

theorem keepsKind_bitwise {op : BinaryOperator} {compute : Float → Nat → Nat → Float}
    (leftNumber : left.kind = .number) (rightNumber : right.kind = .number) :
    KeepsKind .number (apply.bitwise op left right compute) := by
  apply keepsKind_numbers leftNumber rightNumber
  intro x y
  refine (op.notOfKind_asNatural x).bind fun m _ => ?_
  exact (op.notOfKind_asNatural y).bind fun n _ => rfl

theorem keepsKind_division {op : BinaryOperator} {compute : Float → Float → Float}
    (leftNumber : left.kind = .number) (rightNumber : right.kind = .number) :
    KeepsKind .number (apply.division op left right compute) := by
  apply keepsKind_numbers leftNumber rightNumber
  intro x y
  split
  · intro operator found impossible
    cases impossible
  · exact rfl

/-- An operator on two numbers gives a truth value if it compares them, and else a number. -/
theorem keepsKind_apply {op : BinaryOperator} (computes : op.isLogical = false)
    (leftNumber : left.kind = .number) (rightNumber : right.kind = .number) :
    KeepsKind (if op.isComparison then .bool else .number) (op.apply left right) := by
  cases op with
  | or | and => cases computes
  | less | lessEqual | greater | greaterEqual | equal | notEqual =>
      exact keepsKind_numbers leftNumber rightNumber fun x y => rfl
  | add | subtract | multiply | power =>
      exact keepsKind_numbers leftNumber rightNumber fun x y => rfl
  | divide | modulo => exact keepsKind_division leftNumber rightNumber
  | bitOr | bitXor | bitAnd | shiftLeft | shiftRight =>
      exact keepsKind_bitwise leftNumber rightNumber

/-- A logical operator gives a truth value, whatever its operands are. -/
theorem keepsKind_apply_of_isLogical {op : BinaryOperator} (logical : op.isLogical = true)
    (left right : Value) : KeepsKind .bool (op.apply left right) := by
  cases op <;> first | exact rfl | cases logical

theorem kind_of_settled? {op : BinaryOperator} {result : Value}
    (settled : op.settled? left = some result) : result.kind = .bool := by
  unfold settled? at settled
  split at settled
  · split at settled
    · cases settled
    · cases settled
      rfl
  · split at settled
    · cases settled
      rfl
    · cases settled
  · cases settled

end BinaryOperator

end Operators

/-! ## Expressions with a kind -/

section Nodes

variable {next : α → Traced EvalError Value} {kind leftKind rightKind : Kind}

theorem keepsKind_evaluateNode_binary {op : BinaryOperator} {left right : α}
    (leftKeeps : KeepsKind leftKind (next left).outcome)
    (rightKeeps : KeepsKind rightKind (next right).outcome)
    (settles : ∀ value result, op.settled? value = some result → result.kind = kind)
    (applies : ∀ value value' : Value, value.kind = leftKind → value'.kind = rightKind →
      KeepsKind kind (op.apply value value')) :
    KeepsKind kind (evaluateNode next (.binary op left right)).outcome := by
  refine leftKeeps.outcome_bind fun value ofLeft => ?_
  cases settled : op.settled? value with
  | some result => exact settles value result settled
  | none =>
      refine rightKeeps.outcome_bind fun value' ofRight => ?_
      have applied := applies value value' ofLeft ofRight
      refine Ensures.outcome_bind applied fun result ofKind => ?_
      split <;> exact ofKind

theorem keepsKind_evaluateNode_conditional {condition whenTrue whenFalse : α} {asked : Kind}
    (conditionKeeps : KeepsKind asked (next condition).outcome)
    (trueKeeps : KeepsKind kind (next whenTrue).outcome)
    (falseKeeps : KeepsKind kind (next whenFalse).outcome) :
    KeepsKind kind (evaluateNode next (.conditional condition whenTrue whenFalse)).outcome := by
  refine conditionKeeps.outcome_bind fun value _ => ?_
  split
  · exact trueKeeps
  · exact falseKeeps

end Nodes

/-- An expression keeps a kind if its node does. -/
theorem keepsKind_evaluateAt_of_node {limits : Limits} {depth : Nat} {expr : Expr} {kind : Kind}
    (keeps : KeepsKind kind
      (evaluateNode (evaluateAt .tree limits (depth + 1)) expr.node).outcome) :
    KeepsKind kind (evaluateAt .tree limits depth expr).outcome := by
  by_cases allowed : depth ≤ limits.maxDepth
  · rwa [outcome_evaluateAt_of_node allowed rfl]
  · rw [evaluateAt_eq, if_pos (by omega)]
    intro operator found impossible
    cases impossible

/-- **The rules are sound**, at every depth and under every limit. -/
theorem Expr.HasKind.keepsKind_evaluateAt {expr : Expr} {kind : Kind} (kinded : expr.HasKind kind)
    (limits : Limits) (depth : Nat) :
    KeepsKind kind (evaluateAt .tree limits depth expr).outcome := by
  induction kinded generalizing depth with
  | literal digits =>
      apply keepsKind_evaluateAt_of_node
      change KeepsKind .number (Value.ofLiteral digits)
      unfold Value.ofLiteral
      split
      · exact rfl
      · intro operator found impossible
        cases impossible
  | sign signs _ ih =>
      apply keepsKind_evaluateAt_of_node
      exact (ih (depth + 1)).outcome_bind fun value number =>
        UnaryOperator.keepsKind_sign signs number
  | negation _ ih =>
      apply keepsKind_evaluateAt_of_node
      exact (ih (depth + 1)).outcome_bind fun value _ => rfl
  | @computation op left right computes _ _ ihLeft ihRight =>
      apply keepsKind_evaluateAt_of_node
      refine keepsKind_evaluateNode_binary (ihLeft (depth + 1)) (ihRight (depth + 1)) ?_ ?_
      · intro value result settled
        rw [BinaryOperator.settled?_of_not_isLogical computes.1] at settled
        cases settled
      · intro value value' leftNumber rightNumber
        have applied := BinaryOperator.keepsKind_apply computes.1 leftNumber rightNumber
        rwa [computes.2, if_neg Bool.false_ne_true] at applied
  | @comparison op left right compares _ _ ihLeft ihRight =>
      apply keepsKind_evaluateAt_of_node
      refine keepsKind_evaluateNode_binary (ihLeft (depth + 1)) (ihRight (depth + 1)) ?_ ?_
      · intro value result settled
        exact BinaryOperator.kind_of_settled? settled
      · intro value value' leftNumber rightNumber
        have computes : op.isLogical = false := by
          cases op <;> first | rfl | cases compares
        have applied := BinaryOperator.keepsKind_apply computes leftNumber rightNumber
        rwa [if_pos compares] at applied
  | logical logical _ _ ihLeft ihRight =>
      apply keepsKind_evaluateAt_of_node
      refine keepsKind_evaluateNode_binary (ihLeft (depth + 1)) (ihRight (depth + 1)) ?_ ?_
      · intro value result settled
        exact BinaryOperator.kind_of_settled? settled
      · intro value value' _ _
        exact BinaryOperator.keepsKind_apply_of_isLogical logical value value'
  | choice _ _ _ ihCondition ihTrue ihFalse =>
      apply keepsKind_evaluateAt_of_node
      exact keepsKind_evaluateNode_conditional (ihCondition (depth + 1)) (ihTrue (depth + 1))
        (ihFalse (depth + 1))

/-! ## Operands that cannot be numbers -/

/-- The outermost operator of the expression gives a truth value, whatever its operands are. -/
def Expr.givesTruth : Expr → Bool
  | unary op _ => op = .not
  | binary op _ _ => op.isComparison || op.isLogical
  | _ => false

/-- The outermost operator of the expression wants numbers. -/
def Expr.wantsNumbers : Expr → Bool
  | unary op _ => op ≠ .not
  | binary op _ _ => !op.isLogical
  | _ => false

/-- The outcome is a truth value or a failure. -/
abbrev GivesTruth (outcome : Except EvalError Value) : Prop :=
  Ensures outcome (fun value => value.kind = .bool) (fun _ => True)

/-- The outcome is a failure. -/
abbrev Fails (outcome : Except EvalError α) : Prop :=
  Ensures outcome (fun _ => False) (fun _ => True)

/-- Of an outcome about which nothing is known. -/
theorem ensures_true (outcome : Except EvalError Value) :
    Ensures outcome (fun _ => True) (fun _ => True) := by
  cases outcome <;> trivial

namespace BinaryOperator

variable {op : BinaryOperator} {left right : Value}

/-- An operator that is not logical looks at two numbers. -/
theorem exists_apply_eq_numbers (computes : op.isLogical = false) (left right : Value) :
    ∃ compute, op.apply left right = apply.numbers op left right compute := by
  cases op <;> first | exact ⟨_, rfl⟩ | cases computes

theorem fails_apply_of_truth (computes : op.isLogical = false)
    (truth : left.kind = .bool ∨ right.kind = .bool) : Fails (op.apply left right) := by
  obtain ⟨compute, same⟩ := exists_apply_eq_numbers computes left right
  rw [same]
  cases left with
  | bool b => trivial
  | number x =>
      cases right with
      | bool b => trivial
      | number y => rcases truth with impossible | impossible <;> cases impossible

theorem givesTruth_apply (gives : (op.isComparison || op.isLogical) = true) (left right : Value) :
    GivesTruth (op.apply left right) := by
  have compares {compute : Float → Float → Bool} :
      GivesTruth (apply.comparison op left right compute) := by
    cases left with
    | bool b => trivial
    | number x => cases right <;> trivial
  cases op with
  | or | and => exact rfl
  | less | lessEqual | greater | greaterEqual | equal | notEqual => exact compares
  | _ => cases gives

end BinaryOperator

/-- An expression whose outermost operator gives truth values has no other value. -/
theorem givesTruth_evaluateAt {expr : Expr} (gives : expr.givesTruth = true) (limits : Limits)
    (depth : Nat) : GivesTruth (evaluateAt .tree limits depth expr).outcome := by
  by_cases allowed : depth ≤ limits.maxDepth
  case neg =>
    rw [evaluateAt_eq, if_pos (by omega)]
    trivial
  rw [outcome_evaluateAt_of_node allowed rfl]
  cases expr with
  | literal digits => cases gives
  | conditional condition whenTrue whenFalse => cases gives
  | unary op operand =>
      rw [Expr.givesTruth, decide_eq_true_eq] at gives
      subst gives
      exact (ensures_true _).outcome_bind fun value _ => rfl
  | binary op left right =>
      refine (ensures_true _).outcome_bind fun value _ => ?_
      split
      · rename_i result settled
        exact BinaryOperator.kind_of_settled? settled
      · refine (ensures_true _).outcome_bind fun value' _ => ?_
        have applied := BinaryOperator.givesTruth_apply gives value value'
        refine Ensures.outcome_bind applied fun result truth => ?_
        split <;> exact truth

/-- An operator that wants numbers fails on operands one of which cannot be a number. -/
theorem fails_evaluateNode {next : Expr → Traced EvalError Value} {expr operand : Expr}
    (wants : expr.wantsNumbers = true) (member : operand ∈ expr.node.operands)
    (truth : GivesTruth (next operand).outcome) : Fails (evaluateNode next expr.node).outcome := by
  cases expr with
  | literal digits => cases wants
  | conditional condition whenTrue whenFalse => cases wants
  | unary op operand' =>
      obtain rfl : operand = operand' := List.mem_singleton.mp member
      rw [Expr.wantsNumbers, decide_eq_true_eq] at wants
      refine truth.outcome_bind fun value ofBool => ?_
      cases value with
      | number x => cases ofBool
      | bool b =>
          cases op with
          | plus | minus => trivial
          | not => exact absurd rfl wants
  | binary op left right =>
      rw [Expr.wantsNumbers, Bool.not_eq_true'] at wants
      -- The operands are evaluated in order, and the operator fails on the values of both.
      have fails {good good' : Value → Prop}
          (ofLeft : Ensures (next left).outcome good (fun _ => True))
          (ofRight : Ensures (next right).outcome good' (fun _ => True))
          (applied : ∀ value value', good value → good' value' → Fails (op.apply value value')) :
          Fails (evaluateNode next (.binary op left right)).outcome := by
        refine ofLeft.outcome_bind fun value leftGood => ?_
        rw [BinaryOperator.settled?_of_not_isLogical wants]
        refine ofRight.outcome_bind fun value' rightGood => ?_
        exact Ensures.outcome_bind (applied value value' leftGood rightGood)
          fun _ impossible => impossible.elim
      rcases List.mem_pair.mp member with rfl | rfl
      · exact fails truth (ensures_true _) fun value value' ofBool _ =>
          BinaryOperator.fails_apply_of_truth wants (.inl ofBool)
      · exact fails (ensures_true _) truth fun value value' _ ofBool =>
          BinaryOperator.fails_apply_of_truth wants (.inr ofBool)

/-- An operator that wants numbers never gets past an operand that cannot be one: an operand of the
other kind, or one whose outermost operator gives truth values. -/
theorem outcome_evaluate_ne_ok {expr operand : Expr} (wants : expr.wantsNumbers = true)
    (member : operand ∈ expr.node.operands)
    (truth : operand.HasKind .bool ∨ operand.givesTruth = true) (limits : Limits) (value : Value) :
    (evaluate limits expr).outcome ≠ .ok value := by
  intro evaluated
  by_cases allowed : 1 ≤ limits.maxDepth
  case neg =>
    rw [evaluate, evaluateAt_eq, if_pos (by omega)] at evaluated
    cases evaluated
  have gives : GivesTruth (evaluateAt .tree limits 2 operand).outcome := by
    rcases truth with kinded | outermost
    · exact (kinded.keepsKind_evaluateAt limits 2).imp_failure fun _ _ => trivial
    · exact givesTruth_evaluateAt outermost limits 2
  rw [evaluate, outcome_evaluateAt_of_node allowed rfl] at evaluated
  exact (fails_evaluateNode wants member gives).of_ok evaluated

/-! ## Chains of comparisons -/

/-- The words are three or more operands with comparisons between them. The operands are of the
level that a comparison has as its operands, so that no operand holds a comparison outside of
parentheses. -/
def IsComparisonChain (words : List Token) : Prop :=
  ∃ first outer head links,
    Derives (.infixed BinaryOperator.bitOr.rank) first outer head ∧
    (∀ link ∈ links, link.op.isComparison = true ∧
      Derives (.infixed BinaryOperator.bitOr.rank) link.tokens link.nesting link.tree) ∧
    2 ≤ links.length ∧ words = Link.tokensFrom first links

/-- Comparisons group to the left: the tree of a chain compares a comparison. -/
theorem exists_derives_of_isComparisonChain {words : List Token} (chain : IsComparisonChain words) :
    ∃ nesting op op' left right right', op.isComparison = true ∧ op'.isComparison = true ∧
      Derives .conditional words nesting (.binary op' (.binary op left right) right') := by
  obtain ⟨first, outer, head, links, derivesHead, each, long, rfl⟩ := chain
  have ranked {op : BinaryOperator} (compares : op.isComparison = true) :
      op.rank = BinaryOperator.bitOr.rank + 1 := by
    cases op <;> first | rfl | cases compares
  have derives := derives_infixed_succ_iff.mpr ⟨first, outer, head, links, derivesHead,
    fun link member => ⟨ranked (each link member).1, (each link member).2⟩, rfl, rfl, rfl⟩
  have whole : Derives .conditional (Link.tokensFrom first links) (Link.nestingFrom outer links)
      (Link.treeFrom head links) := .unconditional (derives.infixed_of_le (by decide))
  cases links using List.reverseRecOn with
  | nil => simp at long
  | append_singleton links last =>
      cases links using List.reverseRecOn with
      | nil => simp at long
      | append_singleton links previous =>
          have compares := (each previous (by simp)).1
          have compares' := (each last (by simp)).1
          have folded : Link.treeFrom head (links ++ [previous] ++ [last]) =
              .binary last.op (.binary previous.op (Link.treeFrom head links) previous.tree)
                last.tree := by
            simp [Link.treeFrom]
          rw [folded] at whole
          exact ⟨_, previous.op, last.op, _, _, _, compares, compares', whole⟩

/-- **Kinds are sound.** An expression of a kind fails under no limit because of a truth value in
the place of a number, and its value, if it has one, is of the kind. An operator that wants numbers
has no value on operands one of which is a truth value by its kind or by its outermost operator. So
a source text that is a chain of three or more operands with comparisons between them never has a
value. -/
theorem kinds_are_sound (limits : Limits) :
    (∀ (expr : Expr) (kind : Kind), expr.HasKind kind →
      (∀ operator found, (evaluate limits expr).outcome ≠ .error (.expectedNumber operator found)) ∧
      ∀ value, (evaluate limits expr).outcome = .ok value → value.kind = kind) ∧
    (∀ expr operand : Expr, expr.wantsNumbers = true → operand ∈ expr.node.operands →
      operand.HasKind .bool ∨ operand.givesTruth = true →
      ∀ value, (evaluate limits expr).outcome ≠ .ok value) ∧
    ∀ source tokens, (tokenize source).outcome = .ok tokens →
      IsComparisonChain (tokens.map Located.token) →
      ∀ value, (run limits source).outcome ≠ .ok value := by
  refine ⟨fun expr kind kinded => ?_, fun expr operand wants member truth value =>
    outcome_evaluate_ne_ok wants member truth limits value, ?_⟩
  · have keeps := kinded.keepsKind_evaluateAt limits 1
    refine ⟨fun operator found failed => ?_, fun value evaluated => keeps.of_ok evaluated⟩
    exact keeps.of_error failed operator found rfl
  · intro source tokens scanned chain value ran
    obtain ⟨tokens', expr, scanned', parsed, evaluated⟩ := exists_parse_of_run_eq_ok ran
    obtain rfl : tokens = tokens' := Except.ok.inj (scanned.symm.trans scanned')
    obtain ⟨_, derives, _⟩ := Parse.exists_derives_of_parse parsed
    obtain ⟨_, op, op', left, right, right', compares, compares', grouped⟩ :=
      exists_derives_of_isComparisonChain chain
    obtain rfl := derives_unique derives grouped
    have wants : (Expr.binary op' (.binary op left right) right').wantsNumbers = true := by
      cases op' <;> first | rfl | cases compares'
    have gives : (Expr.binary op left right).givesTruth = true := by
      simp [Expr.givesTruth, compares]
    exact outcome_evaluate_ne_ok wants (List.mem_cons_self ..) (.inr gives) limits value evaluated

/-- A negated sum is a truth value, which a conditional passes on and addition refuses. A chain of
two comparisons has no value. -/
theorem kinds_are_sound_of_choice :
    let choice := Expr.conditional (.binary .greater (.literal ['2']) (.literal ['1']))
      (.unary .not (.binary .add (.literal ['1']) (.literal ['2'])))
      (.binary .or (.literal ['0']) (.literal ['0']))
    let sum := Expr.binary .add (.literal ['1']) choice
    let source := "1 < 2 < 3".toList
    choice.HasKind .bool ∧ (evaluate ⟨9, 9⟩ choice).outcome = .ok (.bool false) ∧
      (∀ operator found,
        (evaluate ⟨9, 9⟩ choice).outcome ≠ .error (.expectedNumber operator found)) ∧
      (∀ value, (evaluate ⟨9, 9⟩ sum).outcome ≠ .ok value) ∧
      ∀ value, (run ⟨9, 9⟩ source).outcome ≠ .ok value := by
  intro choice sum source
  obtain ⟨keeps, refuses, chains⟩ := kinds_are_sound ⟨9, 9⟩
  have kinded : choice.HasKind .bool :=
    .choice (.comparison rfl (.literal _) (.literal _))
      (.negation (.computation ⟨rfl, rfl⟩ (.literal _) (.literal _)))
      (.logical rfl (.literal _) (.literal _))
  have evaluated : (evaluate ⟨9, 9⟩ choice).outcome = .ok (.bool false) := by decide +kernel
  have scanned : (tokenize source).outcome = .ok [⟨.number ['1'], 0⟩, ⟨.operator .less, 2⟩,
      ⟨.number ['2'], 4⟩, ⟨.operator .less, 6⟩, ⟨.number ['3'], 8⟩] := by decide +kernel
  have operand (digits : List Char) :
      Derives (.infixed BinaryOperator.bitOr.rank) [.number digits] 0 (.literal digits) :=
    .of_signed nofun (.unsigned (.number digits))
  have chain : IsComparisonChain [.number ['1'], .operator .less, .number ['2'], .operator .less,
      .number ['3']] := by
    refine ⟨[.number ['1']], 0, .literal ['1'], [⟨.less, [.number ['2']], 0, .literal ['2']⟩,
      ⟨.less, [.number ['3']], 0, .literal ['3']⟩], operand _, ?_, by decide, by decide⟩
    intro link member
    rcases List.mem_pair.mp member with rfl | rfl
    · exact ⟨rfl, operand _⟩
    · exact ⟨rfl, operand _⟩
  exact ⟨kinded, evaluated, (keeps choice .bool kinded).1,
    refuses sum choice rfl (by decide) (.inl kinded), chains source _ scanned chain⟩

end Calculator
