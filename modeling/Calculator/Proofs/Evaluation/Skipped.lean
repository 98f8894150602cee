import Calculator.Proofs.Evaluation.Views

/-!
# Operands that evaluation skips

A logical operator or a conditional may leave an operand out, once it has the value
of the operand that decides about it. What is left out has no influence on the
outcome, wherever the operator stands (`outcome_eq_of_skipped`). In a tree it may
be any tree. In an encoded text it may be any text at all that splitting leaves
whole and that is not blank: nobody finds out that it names no operator, writes no
number, divides by zero or is nested without end.

A `Frame` is a node with one operand missing, and the surroundings of an operand
are the frames around it. Two operands with one outcome have one outcome in any
surroundings, as trees (`outcome_fill_eq`) and as texts (`outcome_encodeAround_eq`).
So only the innermost frame needs a look at what it skips
(`Frame.outcome_evaluateNode_eq_of_skips`).
-/

set_option autoImplicit false

namespace Calculator

open Encoding (IsOperand)

variable {α β : Type}

/-! ## Frames -/

/-- A node with one of its operands missing. -/
inductive Frame where
  | unary (op : UnaryOperator)
  | binaryLeft (op : BinaryOperator) (right : Expr)
  | binaryRight (op : BinaryOperator) (left : Expr)
  | conditionalHead (whenTrue whenFalse : Expr)
  | conditionalTrue (condition whenFalse : Expr)
  | conditionalFalse (condition whenTrue : Expr)
deriving Repr, DecidableEq

namespace Frame

/-- The node with `operand` in the place of the missing operand, and the images of the others. -/
def node (f : Expr → α) (frame : Frame) (operand : α) : Node α :=
  match frame with
  | unary op => .unary op operand
  | binaryLeft op right => .binary op operand (f right)
  | binaryRight op left => .binary op (f left) operand
  | conditionalHead whenTrue whenFalse => .conditional operand (f whenTrue) (f whenFalse)
  | conditionalTrue condition whenFalse => .conditional (f condition) operand (f whenFalse)
  | conditionalFalse condition whenTrue => .conditional (f condition) (f whenTrue) operand

/-- The tree in which `operand` takes the missing place. -/
def fill (frame : Frame) (operand : Expr) : Expr :=
  (frame.node id operand).toExpr

/-- The text in which `operand` takes the missing place, and the other operands are encoded. -/
def encodeAround (frame : Frame) (operand : List Char) : List Char :=
  (frame.node Expr.encode operand).encode

/-- The operands that are not missing. -/
def siblings : Frame → List Expr
  | unary _ => []
  | binaryLeft _ right => [right]
  | binaryRight _ left => [left]
  | conditionalHead whenTrue whenFalse => [whenTrue, whenFalse]
  | conditionalTrue condition whenFalse => [condition, whenFalse]
  | conditionalFalse condition whenTrue => [condition, whenTrue]

/-- The frame has no use for the missing operand, given the outcomes of the others: the operand that
decides about it fails, or has a value that leaves it out. -/
def Skips (outcome : Expr → Except EvalError Value) : Frame → Prop
  | binaryRight .and left => ∀ value, outcome left = .ok value → value.truthy = false
  | binaryRight .or left => ∀ value, outcome left = .ok value → value.truthy = true
  | conditionalTrue condition _ => ∀ value, outcome condition = .ok value → value.truthy = false
  | conditionalFalse condition _ => ∀ value, outcome condition = .ok value → value.truthy = true
  | _ => False

variable {frame : Frame}

theorem map_node (g : α → β) (f : Expr → α) (operand : α) :
    (frame.node f operand).map g = frame.node (g ∘ f) (g operand) := by
  cases frame <;> rfl

theorem exists_symbol?_node (frame : Frame) (f : Expr → α) (operand : α) :
    ∃ symbol, (frame.node f operand).symbol? = some symbol := by
  cases frame <;> exact ⟨_, rfl⟩

/-- The operands of a filled frame are the one that was missing and its siblings. -/
theorem mem_operands_node {f : Expr → α} {operand a : α} :
    a ∈ (frame.node f operand).operands ↔
      a = operand ∨ ∃ sibling ∈ frame.siblings, a = f sibling := by
  cases frame <;> simp [node, Node.operands, siblings, or_comm, or_left_comm]

/-- Filled frames are related when what fills them is, and each sibling is to itself. -/
theorem related_node {related : α → β → Prop} {f : Expr → α} {g : Expr → β} {a : α} {b : β}
    (filled : related a b) (each : ∀ sibling ∈ frame.siblings, related (f sibling) (g sibling)) :
    (frame.node f a).Related related (frame.node g b) := by
  cases frame with
  | unary op => exact .unary op filled
  | binaryLeft op right => exact .binary op filled (each right (by simp [siblings]))
  | binaryRight op left => exact .binary op (each left (by simp [siblings])) filled
  | conditionalHead whenTrue whenFalse =>
      exact .conditional filled (each whenTrue (by simp [siblings]))
        (each whenFalse (by simp [siblings]))
  | conditionalTrue condition whenFalse =>
      exact .conditional (each condition (by simp [siblings])) filled
        (each whenFalse (by simp [siblings]))
  | conditionalFalse condition whenTrue =>
      exact .conditional (each condition (by simp [siblings])) (each whenTrue (by simp [siblings]))
        filled

theorem node_congr {f g : Expr → α} {operand : α}
    (same : ∀ sibling ∈ frame.siblings, f sibling = g sibling) :
    frame.node f operand = frame.node g operand := by
  cases frame <;> simp_all [node, siblings]

theorem Skips.congr {outcome outcome' : Expr → Except EvalError Value}
    (skips : frame.Skips outcome)
    (same : ∀ sibling ∈ frame.siblings, outcome' sibling = outcome sibling) :
    frame.Skips outcome' := by
  cases frame with
  | binaryRight op left =>
      have agrees := same left (by simp [siblings])
      cases op with
      | and | or => exact fun value evaluated => skips value (agrees.symm.trans evaluated)
      | _ => cases skips
  | conditionalTrue condition _ | conditionalFalse condition _ =>
      have agrees := same condition (by simp [siblings])
      exact fun value evaluated => skips value (agrees.symm.trans evaluated)
  | _ => cases skips

theorem encode_fill (operand : Expr) :
    (frame.fill operand).encode = frame.encodeAround operand.encode := by
  rw [fill, Expr.encode_eq_node, Node.node_toExpr, map_node]
  rfl

/-- **What a frame skips does not matter to its outcome.** -/
theorem outcome_evaluateNode_eq_of_skips {next : α → Traced EvalError Value} {f : Expr → α}
    (skips : frame.Skips fun sibling => (next (f sibling)).outcome) (a b : α) :
    (evaluateNode next (frame.node f a)).outcome =
      (evaluateNode next (frame.node f b)).outcome := by
  -- The operand that decides is evaluated first, so that its failure is the outcome of both.
  have decided {deciding : α} {rest rest' : Value → Traced EvalError Value}
      (agree : ∀ value, (next deciding).outcome = .ok value →
        (rest value).outcome = (rest' value).outcome) :
      (next deciding >>= rest).outcome = (next deciding >>= rest').outcome := by
    rw [Traced.outcome_bind, Traced.outcome_bind]
    cases outcome : (next deciding).outcome with
    | error error => rfl
    | ok value => exact agree value outcome
  cases frame with
  | unary op => cases skips
  | binaryLeft op right => cases skips
  | conditionalHead whenTrue whenFalse => cases skips
  | binaryRight op left =>
      cases op with
      | and | or =>
          refine decided fun value evaluated => ?_
          simp [BinaryOperator.settled?, skips value evaluated]
      | _ => cases skips
  | conditionalTrue condition whenFalse | conditionalFalse condition whenTrue =>
      refine decided fun value evaluated => ?_
      simp [skips value evaluated]

/-! ### Trees -/

theorem node_fill (operand : Expr) :
    View.tree.node (frame.fill operand) = .ok (frame.node id operand) :=
  congrArg Except.ok (Node.node_toExpr _)

/-- What fills a frame matters to the outcome by its own outcome only. -/
theorem outcome_fill_eq {limits : Limits} {depth : Nat} {a b : Expr}
    (same : (evaluateAt .tree limits (depth + 1) a).outcome =
      (evaluateAt .tree limits (depth + 1) b).outcome) :
    (evaluateAt .tree limits depth (frame.fill a)).outcome =
      (evaluateAt .tree limits depth (frame.fill b)).outcome := by
  refine outcome_evaluateAt_eq_of_nodes (node_fill a) (node_fill b) ?_
  exact outcome_evaluateNode_eq_of_related (related_node same fun _ _ => rfl)

theorem outcome_fill_eq_of_skips {limits : Limits} {depth : Nat}
    (skips : frame.Skips fun sibling => (evaluateAt .tree limits (depth + 1) sibling).outcome)
    (a b : Expr) :
    (evaluateAt .tree limits depth (frame.fill a)).outcome =
      (evaluateAt .tree limits depth (frame.fill b)).outcome :=
  outcome_evaluateAt_eq_of_nodes (node_fill a) (node_fill b)
    (outcome_evaluateNode_eq_of_skips skips a b)

/-! ### Texts -/

/-- The siblings in a frame have literals that can be told apart from the marks of the encoding. -/
def Legible (frame : Frame) : Prop :=
  ∀ sibling ∈ frame.siblings, ∀ digits ∈ sibling.literals, Calculator.Legible digits

theorem Legible.of_fill {operand : Expr}
    (legible : ∀ digits ∈ (frame.fill operand).literals, Calculator.Legible digits) :
    frame.Legible ∧ ∀ digits ∈ operand.literals, Calculator.Legible digits := by
  have each (e : Expr) (member : e = operand ∨ ∃ sibling ∈ frame.siblings, e = id sibling)
      (digits : List Char) (inside : digits ∈ e.literals) : Calculator.Legible digits := by
    refine legible digits (Expr.mem_literals_of_mem_operands ?_ inside)
    rw [fill, Node.node_toExpr]
    exact mem_operands_node.mpr member
  exact ⟨fun sibling member => each sibling (.inr ⟨sibling, member, rfl⟩), each operand (.inl rfl)⟩

theorem isOperand_of_mem_operands (legible : frame.Legible) {operand text : List Char}
    (isOperand : IsOperand operand) (member : text ∈ (frame.node Expr.encode operand).operands) :
    IsOperand text := by
  rcases mem_operands_node.mp member with rfl | ⟨sibling, within, rfl⟩
  · exact isOperand
  · exact Expr.isOperand_encode (legible sibling within)

/-- A frame around a text reads as the filled frame, whatever the text says. -/
theorem read_encodeAround (legible : frame.Legible) {operand : List Char}
    (isOperand : IsOperand operand) :
    Encoding.read (frame.encodeAround operand) =
      .ok (frame.node Expr.encode (Text.trim operand)) := by
  obtain ⟨symbol, known⟩ := frame.exists_symbol?_node Expr.encode operand
  rw [encodeAround, Node.read_encode known fun text member =>
    isOperand_of_mem_operands legible isOperand member, map_node]
  exact congrArg _ (node_congr fun sibling within => Expr.trim_encode (legible sibling within))

theorem isOperand_encodeAround (legible : frame.Legible) {operand : List Char}
    (isOperand : IsOperand operand) : IsOperand (frame.encodeAround operand) := by
  obtain ⟨symbol, known⟩ := frame.exists_symbol?_node Expr.encode operand
  exact Node.isOperand_encode known fun text member =>
    isOperand_of_mem_operands legible isOperand member

theorem outcome_encodeAround_eq (legible : frame.Legible) {limits : Limits} {depth : Nat}
    {a b : List Char} (isOperandA : IsOperand a) (isOperandB : IsOperand b)
    (same : (evaluateAt .encoded limits (depth + 1) a).outcome =
      (evaluateAt .encoded limits (depth + 1) b).outcome) :
    (evaluateAt .encoded limits depth (frame.encodeAround a)).outcome =
      (evaluateAt .encoded limits depth (frame.encodeAround b)).outcome := by
  refine outcome_evaluateAt_eq_of_nodes (read_encodeAround legible isOperandA)
    (read_encodeAround legible isOperandB) ?_
  refine outcome_evaluateNode_eq_of_related (related_node ?_ fun _ _ => rfl)
  rw [outcome_evaluateAt_trim, outcome_evaluateAt_trim, same]

theorem outcome_encodeAround_eq_of_skips (legible : frame.Legible) {limits : Limits} {depth : Nat}
    (skips : frame.Skips fun sibling => (evaluateAt .tree limits (depth + 1) sibling).outcome)
    {a b : List Char} (isOperandA : IsOperand a) (isOperandB : IsOperand b) :
    (evaluateAt .encoded limits depth (frame.encodeAround a)).outcome =
      (evaluateAt .encoded limits depth (frame.encodeAround b)).outcome := by
  refine outcome_evaluateAt_eq_of_nodes (read_encodeAround legible isOperandA)
    (read_encodeAround legible isOperandB) (outcome_evaluateNode_eq_of_skips ?_ _ _)
  refine skips.congr fun sibling within => ?_
  rw [evaluateAt_encoded_encode (legible sibling within)]

end Frame

/-! ## Surroundings -/

/-- The frames around an operand, from the outermost inwards. -/
abbrev Surroundings := List Frame

namespace Surroundings

/-- The tree in which `operand` takes the missing place. -/
def fill (surroundings : Surroundings) (operand : Expr) : Expr :=
  surroundings.foldr Frame.fill operand

/-- The text in which `operand` takes the missing place, and all around it is encoded. -/
def encodeAround (surroundings : Surroundings) (operand : List Char) : List Char :=
  surroundings.foldr Frame.encodeAround operand

/-- The surroundings of the encoded form of an operand make up the encoded form of the tree. -/
theorem encode_fill (surroundings : Surroundings) (operand : Expr) :
    (surroundings.fill operand).encode = surroundings.encodeAround operand.encode := by
  induction surroundings with
  | nil => rfl
  | cons frame inner ih =>
      change (frame.fill (fill inner operand)).encode = frame.encodeAround _
      rw [Frame.encode_fill, ih]
      rfl

/-- What frames pass on from the inside to the outside, one level at a time, surroundings do. -/
theorem foldr_related (related : Nat → α → α → Prop) {build : Frame → α → α}
    {surroundings : Surroundings} {depth : Nat} {a b : α}
    (step : ∀ frame ∈ surroundings, ∀ depth a b, related (depth + 1) a b →
      related depth (build frame a) (build frame b))
    (inside : related (depth + surroundings.length) a b) :
    related depth (surroundings.foldr build a) (surroundings.foldr build b) := by
  induction surroundings generalizing depth with
  | nil => exact inside
  | cons frame inner ih =>
      have stepInner : ∀ frame ∈ inner, ∀ depth a b, related (depth + 1) a b →
          related depth (build frame a) (build frame b) :=
        fun frame member => step frame (List.mem_cons_of_mem _ member)
      refine step frame List.mem_cons_self depth _ _ (ih stepInner ?_)
      rwa [Nat.add_right_comm, Nat.add_assoc]

/-- The operand of a tree with legible literals has legible literals, and so have the frames around
it. -/
theorem legible_of_fill {surroundings : Surroundings} {operand : Expr}
    (legible : ∀ digits ∈ (surroundings.fill operand).literals, Legible digits) :
    (∀ frame ∈ surroundings, frame.Legible) ∧ ∀ digits ∈ operand.literals, Legible digits := by
  induction surroundings with
  | nil => exact ⟨by simp, legible⟩
  | cons frame inner ih =>
      change ∀ digits ∈ (frame.fill (fill inner operand)).literals, Legible digits at legible
      obtain ⟨outer, inside⟩ := Frame.Legible.of_fill legible
      obtain ⟨others, operandLegible⟩ := ih inside
      exact ⟨List.forall_mem_cons.mpr ⟨outer, others⟩, operandLegible⟩

/-- **Two trees with one outcome have one outcome in any surroundings.** -/
theorem outcome_fill_eq {surroundings : Surroundings} {limits : Limits} {depth : Nat} {a b : Expr}
    (same : (evaluateAt .tree limits (depth + surroundings.length) a).outcome =
      (evaluateAt .tree limits (depth + surroundings.length) b).outcome) :
    (evaluateAt .tree limits depth (surroundings.fill a)).outcome =
      (evaluateAt .tree limits depth (surroundings.fill b)).outcome :=
  foldr_related (fun depth a b =>
    (evaluateAt .tree limits depth a).outcome = (evaluateAt .tree limits depth b).outcome)
    (fun _ _ _ _ _ same => Frame.outcome_fill_eq same) same

/-- **Two texts with one outcome have one outcome in any surroundings**, provided that they may
stand as operands. -/
theorem outcome_encodeAround_eq {surroundings : Surroundings}
    (legible : ∀ frame ∈ surroundings, frame.Legible) {limits : Limits} {depth : Nat}
    {a b : List Char} (isOperandA : IsOperand a) (isOperandB : IsOperand b)
    (same : (evaluateAt .encoded limits (depth + surroundings.length) a).outcome =
      (evaluateAt .encoded limits (depth + surroundings.length) b).outcome) :
    (evaluateAt .encoded limits depth (surroundings.encodeAround a)).outcome =
      (evaluateAt .encoded limits depth (surroundings.encodeAround b)).outcome := by
  refine (foldr_related (fun depth a b => IsOperand a ∧ IsOperand b ∧
    (evaluateAt .encoded limits depth a).outcome = (evaluateAt .encoded limits depth b).outcome)
    ?_ ⟨isOperandA, isOperandB, same⟩).2.2
  rintro frame member depth a b ⟨isOperandA, isOperandB, same⟩
  have legible := legible frame member
  exact ⟨Frame.isOperand_encodeAround legible isOperandA,
    Frame.isOperand_encodeAround legible isOperandB,
    Frame.outcome_encodeAround_eq legible isOperandA isOperandB same⟩

end Surroundings

/-- **An operand that is skipped has no influence on the outcome.** Let a tree have a frame
somewhere in it that skips the operand which fills it. Any other tree in the place of the operand
leaves the outcome as it is. In the encoded form of the tree, any text that may stand as an operand
does so too. -/
theorem outcome_eq_of_skipped (limits : Limits) (surroundings : Surroundings) (frame : Frame)
    (skips : frame.Skips fun sibling =>
      (evaluateAt .tree limits (surroundings.length + 2) sibling).outcome) (operand : Expr) :
    (∀ other, (evaluate limits (surroundings.fill (frame.fill other))).outcome =
      (evaluate limits (surroundings.fill (frame.fill operand))).outcome) ∧
    ((∀ digits ∈ (surroundings.fill (frame.fill operand)).literals, Legible digits) →
      ∀ text, IsOperand text →
        (evaluateEncoded limits (surroundings.encodeAround (frame.encodeAround text))).outcome =
          (evaluateEncoded limits (surroundings.fill (frame.fill operand)).encode).outcome) := by
  have skips' : frame.Skips fun sibling =>
      (evaluateAt .tree limits (1 + surroundings.length + 1) sibling).outcome := by
    rwa [Nat.add_comm 1]
  constructor
  · intro other
    exact Surroundings.outcome_fill_eq (Frame.outcome_fill_eq_of_skips skips' other operand)
  · intro legible text isOperand
    obtain ⟨around, inside⟩ := Surroundings.legible_of_fill legible
    obtain ⟨legible, operandLegible⟩ := Frame.Legible.of_fill inside
    have isOperand' := Expr.isOperand_encode operandLegible
    rw [Surroundings.encode_fill, Frame.encode_fill]
    exact Surroundings.outcome_encodeAround_eq around
      (Frame.isOperand_encodeAround legible isOperand)
      (Frame.isOperand_encodeAround legible isOperand')
      (Frame.outcome_encodeAround_eq_of_skips legible skips' isOperand isOperand')

/-- A branch that is not taken may be a tree that is too deep, or a text that means nothing. -/
theorem outcome_eq_of_skipped_of_branch :
    let surroundings := [Frame.binaryLeft .add (.literal ['2'])]
    let frame := Frame.conditionalFalse (.literal ['1']) (.literal ['5'])
    let deep := Expr.unary .minus (.unary .minus (.literal ['x']))
    let text := "frob(n:x,,(1/0))".toList
    frame.Skips (fun sibling => (evaluateAt .tree ⟨0, 3⟩ 3 sibling).outcome) ∧ IsOperand text ∧
      (evaluate ⟨0, 3⟩ (Surroundings.fill surroundings (frame.fill deep))).outcome =
        .ok (.number (Float.ofNat 7)) ∧
      (evaluateEncoded ⟨0, 3⟩ "+(?:(n:1,n:5,frob(n:x,,(1/0))),n:2)".toList).outcome =
        .ok (.number (Float.ofNat 7)) := by
  intro surroundings frame deep text
  have truth : (evaluateAt .tree ⟨0, 3⟩ 3 (.literal ['1'])).outcome =
      .ok (.number (Float.ofNat 1)) := by decide +kernel
  have skips : frame.Skips fun sibling => (evaluateAt .tree ⟨0, 3⟩ 3 sibling).outcome := by
    intro value evaluated
    cases truth.symm.trans evaluated
    decide +kernel
  have isOperand : IsOperand text := Encoding.isOperand_iff.mpr ⟨by rfl, by decide⟩
  let shallow := Surroundings.fill surroundings (frame.fill (.literal ['9']))
  have value : (evaluate ⟨0, 3⟩ shallow).outcome = .ok (.number (Float.ofNat 7)) := by
    decide +kernel
  have legible : ∀ digits ∈ shallow.literals, Legible digits := by decide
  obtain ⟨trees, texts⟩ :=
    outcome_eq_of_skipped ⟨0, 3⟩ surroundings frame skips (.literal ['9'])
  refine ⟨skips, isOperand, (trees deep).trans value, (texts legible text isOperand).trans ?_⟩
  rw [evaluateEncoded_encode ⟨0, 3⟩ _ legible, value]

end Calculator
