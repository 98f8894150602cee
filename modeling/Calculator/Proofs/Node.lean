import Mathlib.Data.List.Forall2
import Calculator.Encoding

/-!
# Expressions one level at a time

A node other than a literal is its symbol and its operands: the symbol together
with the number of operands determines the operator. So a statement about every
expression needs no case for each kind of operator. It is proved of a literal and
of a symbol with operands, by induction on operands (`Expr.induct_operands`).

Two nodes are related when they are the same but for their operands, which are
related in pairs. Two ways to look at an expression are compared through this
relation.
-/

set_option autoImplicit false

namespace Calculator

/-- A relation between lists in pairs may be weakened at the members of the lists. -/
theorem forall₂_imp_of_mem {α β : Type} {related weaker : α → β → Prop} {first : List α}
    {second : List β} (each : List.Forall₂ related first second)
    (implies : ∀ a ∈ first, ∀ b ∈ second, related a b → weaker a b) :
    List.Forall₂ weaker first second := by
  induction each with
  | nil => exact .nil
  | cons head _ ih =>
      refine .cons (implies _ (by simp) _ (by simp) head) (ih fun a memberA b memberB => ?_)
      exact implies a (by simp [memberA]) b (by simp [memberB])

/-- What every pair says of its first component holds of every member of the first list. -/
theorem forall_of_forall₂ {α β : Type} {related : α → β → Prop} {property : α → Prop}
    {first : List α} {second : List β} (each : List.Forall₂ related first second)
    (implies : ∀ a, ∀ b ∈ second, related a b → property a) : ∀ a ∈ first, property a :=
  ((List.forall₂_and_left first second).mp (forall₂_imp_of_mem each fun a _ b member holds =>
    And.intro (implies a b member holds) holds)).1

/-- Lists whose members have the same images in pairs have the same image. -/
theorem map_eq_map_of_forall₂ {α β γ : Type} {f : α → γ} {g : β → γ} {first : List α}
    {second : List β} (each : List.Forall₂ (fun a b => f a = g b) first second) :
    first.map f = second.map g := by
  rwa [← List.forall₂_map_right_iff, ← List.forall₂_map_left_iff, List.forall₂_eq_eq_eq] at each

namespace Node

variable {α β : Type}

/-- The symbol of a node, unless it is a literal. -/
def symbol? : Node α → Option (List Char)
  | literal _ => none
  | unary op _ => some op.symbol
  | binary op _ _ => some op.symbol
  | conditional _ _ _ => some conditionalSymbol

/-- Two nodes are the same but for their operands, which are related in pairs. -/
inductive Related (related : α → β → Prop) : Node α → Node β → Prop where
  | literal (digits : List Char) : Related related (.literal digits) (.literal digits)
  | unary (op : UnaryOperator) {a : α} {b : β} (operand : related a b) :
      Related related (.unary op a) (.unary op b)
  | binary (op : BinaryOperator) {a a' : α} {b b' : β} (left : related a b)
      (right : related a' b') : Related related (.binary op a a') (.binary op b b')
  | conditional {a a' a'' : α} {b b' b'' : β} (condition : related a b)
      (whenTrue : related a' b') (whenFalse : related a'' b'') :
      Related related (.conditional a a' a'') (.conditional b b' b'')

theorem symbol?_map (f : α → β) (node : Node α) : (node.map f).symbol? = node.symbol? := by
  cases node <;> rfl

theorem operands_map (f : α → β) (node : Node α) :
    (node.map f).operands = node.operands.map f := by
  cases node <;> rfl

/-- The image of a node is related to the node when the image of each operand is. -/
theorem related_map {related : α → β → Prop} (f : β → α) {node : Node β}
    (each : ∀ b ∈ node.operands, related (f b) b) : Related related (node.map f) node := by
  cases node with
  | literal digits => exact .literal digits
  | unary op operand => exact .unary op (each operand (by simp [operands]))
  | binary op left right =>
      exact .binary op (each left (by simp [operands])) (each right (by simp [operands]))
  | conditional condition whenTrue whenFalse =>
      exact .conditional (each condition (by simp [operands])) (each whenTrue (by simp [operands]))
        (each whenFalse (by simp [operands]))

/-- A node is related to itself when each of its operands is. -/
theorem related_self {related : α → α → Prop} {node : Node α}
    (each : ∀ a ∈ node.operands, related a a) : Related related node node := by
  have same : node.map id = node := by cases node <;> rfl
  have mapped := related_map id each
  rwa [same] at mapped

theorem Related.operands {related : α → β → Prop} {node : Node α} {node' : Node β}
    (same : Related related node node') : List.Forall₂ related node.operands node'.operands := by
  cases same with
  | literal digits => exact .nil
  | unary op operand => exact .cons operand .nil
  | binary op left right => exact .cons left (.cons right .nil)
  | conditional condition whenTrue whenFalse =>
      exact .cons condition (.cons whenTrue (.cons whenFalse .nil))

/-- The relation of the operands may be weakened at the operands of the second node. -/
theorem Related.imp_of_mem {related weaker : α → β → Prop} {node : Node α} {node' : Node β}
    (same : Related related node node')
    (implies : ∀ a, ∀ b ∈ node'.operands, related a b → weaker a b) :
    Related weaker node node' := by
  cases same with
  | literal digits => exact .literal digits
  | unary op operand => exact .unary op (implies _ _ (by simp [Node.operands]) operand)
  | binary op left right =>
      exact .binary op (implies _ _ (by simp [Node.operands]) left)
        (implies _ _ (by simp [Node.operands]) right)
  | conditional condition whenTrue whenFalse =>
      exact .conditional (implies _ _ (by simp [Node.operands]) condition)
        (implies _ _ (by simp [Node.operands]) whenTrue)
        (implies _ _ (by simp [Node.operands]) whenFalse)

theorem Related.symbol? {related : α → β → Prop} {node : Node α} {node' : Node β}
    (same : Related related node node') : node.symbol? = node'.symbol? := by
  cases same <;> rfl

/-- Operands that are related to those of a node make a node of the same symbol. -/
theorem exists_related {related : α → β → Prop} {node : Node β} {symbol : List Char}
    {operands : List α} (known : node.symbol? = some symbol)
    (each : List.Forall₂ related operands node.operands) :
    ∃ made : Node α, made.symbol? = some symbol ∧ made.operands = operands ∧
      Related related made node := by
  cases node with
  | literal digits => cases known
  | unary op operand =>
      obtain _ | ⟨first, _ | _⟩ := each
      exact ⟨.unary op _, known, rfl, .unary op first⟩
  | binary op left right =>
      obtain _ | ⟨first, _ | ⟨second, _ | _⟩⟩ := each
      exact ⟨.binary op _ _, known, rfl, .binary op first second⟩
  | conditional condition whenTrue whenFalse =>
      obtain _ | ⟨first, _ | ⟨second, _ | ⟨third, _ | _⟩⟩⟩ := each
      exact ⟨.conditional _ _ _, known, rfl, .conditional first second third⟩

end Node

namespace Expr

theorem depth_pos (expr : Expr) : 0 < expr.depth := by
  cases expr <;> simp [depth]

/-- An expression is a literal, or its outermost node has a symbol. -/
theorem eq_literal_or_symbol? (expr : Expr) :
    (∃ digits, expr = .literal digits) ∨ ∃ symbol, expr.node.symbol? = some symbol := by
  cases expr with
  | literal digits => exact .inl ⟨digits, rfl⟩
  | unary op operand => exact .inr ⟨op.symbol, rfl⟩
  | binary op left right => exact .inr ⟨op.symbol, rfl⟩
  | conditional condition whenTrue whenFalse => exact .inr ⟨conditionalSymbol, rfl⟩

/-- What holds of an expression whenever it holds of its operands holds of every expression. -/
theorem induct_operands {motive : Expr → Prop}
    (step : ∀ expr, (∀ operand ∈ expr.node.operands, motive operand) → motive expr)
    (expr : Expr) : motive expr := by
  induction expr with
  | literal digits => exact step _ (by simp [node, Node.operands])
  | unary op operand ih => exact step _ (by simpa [node, Node.operands] using ih)
  | binary op left right ihLeft ihRight =>
      exact step _ (by simpa [node, Node.operands] using ⟨ihLeft, ihRight⟩)
  | conditional condition whenTrue whenFalse ihCondition ihTrue ihFalse =>
      exact step _ (by simpa [node, Node.operands] using ⟨ihCondition, ihTrue, ihFalse⟩)

/-- The literals of an operand are literals of the expression that it belongs to. -/
theorem mem_literals_of_mem_operands {expr operand : Expr} {digits : List Char}
    (member : operand ∈ expr.node.operands) (inside : digits ∈ operand.literals) :
    digits ∈ expr.literals := by
  cases expr <;>
    simp only [node, Node.operands, List.mem_cons, List.not_mem_nil, or_false] at member
  case unary => exact member ▸ inside
  case binary => rcases member with rfl | rfl <;> simp [literals, inside]
  case conditional => rcases member with rfl | rfl | rfl <;> simp [literals, inside]

/-- An expression with operands is as deep as a bound allows when its operands are one level less
deep. -/
theorem depth_le_succ_iff {expr : Expr} {symbol : List Char}
    (known : expr.node.symbol? = some symbol) (bound : Nat) :
    expr.depth ≤ bound + 1 ↔ ∀ operand ∈ expr.node.operands, operand.depth ≤ bound := by
  cases expr with
  | literal digits => cases known
  | unary op operand => simp [node, Node.operands, depth]
  | binary op left right =>
      simp only [node, Node.operands, depth, List.mem_cons, List.not_mem_nil, or_false,
        forall_eq_or_imp, forall_eq]
      omega
  | conditional condition whenTrue whenFalse =>
      simp only [node, Node.operands, depth, List.mem_cons, List.not_mem_nil, or_false,
        forall_eq_or_imp, forall_eq]
      omega

end Expr

end Calculator
