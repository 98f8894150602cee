import Calculator.Proofs.Encoding.Application

/-!
# The encoded forms of nodes and trees

The encoded form of a node puts its symbol in front of its operands, which are
texts already. It reads as the node, whatever the operands say, as long as each may
stand as an operand, and then it may stand as one itself (`Node.read_encode`,
`Node.isOperand_encode`).

A tree is encoded node by node. Its encoded form reads as its outermost node, as
long as the texts of its literals can be told apart from the marks of the encoding
(`Encoding.read_encode`). They need not write numbers.
-/

set_option autoImplicit false

namespace Calculator

open Encoding (IsOperand Ordinary application)

/-! ## Nodes -/

namespace Node

variable {α : Type}

/-- The tree of a node. -/
def toExpr : Node Expr → Expr
  | literal digits => .literal digits
  | unary op operand => .unary op operand
  | binary op left right => .binary op left right
  | conditional condition whenTrue whenFalse => .conditional condition whenTrue whenFalse

/-- The encoded form of a node whose operands are in encoded form. -/
def encode : Node (List Char) → List Char
  | literal digits => 'n' :: ':' :: digits
  | unary op operand => application op.symbol [operand]
  | binary op left right => application op.symbol [left, right]
  | conditional condition whenTrue whenFalse =>
      application conditionalSymbol [condition, whenTrue, whenFalse]

theorem node_toExpr (node : Node Expr) : node.toExpr.node = node := by
  cases node <;> rfl

theorem map_eq_self {f : α → α} {node : Node α}
    (each : ∀ operand ∈ node.operands, f operand = operand) : node.map f = node := by
  cases node <;> simp_all [map, operands]

theorem encode_eq_application {node : Node (List Char)} {symbol : List Char}
    (known : node.symbol? = some symbol) : node.encode = application symbol node.operands := by
  cases node <;> cases known <;> rfl

section Symbol

variable {node : Node (List Char)} {symbol : List Char} (known : node.symbol? = some symbol)

include known

/-- The encoded form of a node reads as the node, with the blanks around its operands taken off. -/
theorem read_encode (each : ∀ operand ∈ node.operands, IsOperand operand) :
    Encoding.read node.encode = .ok (node.map Text.trim) := by
  have undivided (text : List Char) (member : text ∈ node.operands) :=
    Encoding.isOperand_iff.mp (each text member)
  rw [encode_eq_application known, Encoding.read_of_padded_application
    (Encoding.isSymbol_of_symbol? known) (.refl _) (fun text member => (undivided text member).1)
    (fun text member => (undivided text member).2) (.refl _), Encoding.apply_eq_ok_iff]
  exact ⟨(symbol?_map _ _).trans known, operands_map _ _⟩

/-- There are no blanks around the encoded form of a node. -/
theorem trim_encode : Text.trim node.encode = node.encode := by
  rw [encode_eq_application known, Encoding.trim_application,
    Text.trimStart_eq_self_of_trim_eq_self (Encoding.isSymbol_of_symbol? known).trimmed]

/-- The encoded form of a node may stand as an operand if its operands may. -/
theorem isOperand_encode (each : ∀ operand ∈ node.operands, IsOperand operand) :
    IsOperand node.encode := by
  have ordinary := Encoding.visible_of_symbol? known
  rw [Encoding.isOperand_iff, trim_encode known, encode_eq_application known]
  refine ⟨Encoding.undivided_application (fun c member => (ordinary c member).2.1)
    fun text member => (Encoding.isOperand_iff.mp (each text member)).1, ?_⟩
  simp [application]

end Symbol

end Node

/-! ## Trees -/

/-- The text of a literal can be told apart from the marks of the encoding: it has no parentheses
and no commas, and it does not end in a blank. It need not write a number. -/
structure Legible (digits : List Char) : Prop where
  ordinary : ∀ c ∈ digits, Ordinary c
  ends : ∀ c ∈ digits.getLast?, Text.isBlank c = false

theorem legible_iff {digits : List Char} :
    Legible digits ↔
      digits.Forall Ordinary ∧ digits.getLast?.all (!Text.isBlank ·) = true := by
  rw [List.forall_iff_forall_mem, Option.all_eq_true]
  constructor
  · rintro ⟨ordinary, ends⟩
    exact ⟨ordinary, fun c last => by rw [ends c last]; rfl⟩
  · rintro ⟨ordinary, ends⟩
    exact ⟨ordinary, fun c last => by simpa using ends c last⟩

instance (digits : List Char) : Decidable (Legible digits) :=
  decidable_of_iff' _ legible_iff

/-- Trimming leaves a legible literal as it is. -/
theorem Legible.trim_encode {digits : List Char} (legible : Legible digits) :
    Text.trim ('n' :: ':' :: digits) = 'n' :: ':' :: digits := by
  rcases List.eq_nil_or_concat digits with rfl | ⟨front, last, rfl⟩
  · decide
  · have visible : Text.isBlank last = false := legible.ends last (by simp)
    have ends : 'n' :: ':' :: (front.concat last) = ('n' :: ':' :: front) ++ [last] := by simp
    exact Text.trim_eq_self rfl ends (by decide) visible

/-- A legible literal may stand as an operand. -/
theorem Legible.isOperand_encode {digits : List Char} (legible : Legible digits) :
    IsOperand ('n' :: ':' :: digits) := by
  rw [Encoding.isOperand_iff, legible.trim_encode]
  refine ⟨Encoding.undivided_of_ordinary ?_, List.cons_ne_nil _ _⟩
  exact List.forall_mem_cons.mpr ⟨by decide,
    List.forall_mem_cons.mpr ⟨by decide, legible.ordinary⟩⟩

namespace Expr

/-- A tree is encoded node by node. -/
theorem encode_eq_node (expr : Expr) : expr.encode = (expr.node.map encode).encode := by
  rcases expr.eq_literal_or_symbol? with ⟨digits, rfl⟩ | ⟨symbol, known⟩
  · exact encode_literal _
  · rw [Encoding.encode_eq_application known,
      Node.encode_eq_application ((Node.symbol?_map _ _).trans known), Node.operands_map]

variable {expr : Expr} (legible : ∀ digits ∈ expr.literals, Legible digits)

include legible

/-- There are no blanks around the encoded form of a tree. -/
theorem trim_encode : Text.trim expr.encode = expr.encode := by
  rcases expr.eq_literal_or_symbol? with ⟨digits, rfl⟩ | ⟨symbol, known⟩
  · rw [encode_literal]
    exact (legible digits (by simp [literals])).trim_encode
  · rw [encode_eq_node]
    exact Node.trim_encode ((Node.symbol?_map _ _).trans known)

/-- The encoded form of a tree may stand as an operand. -/
theorem isOperand_encode : IsOperand expr.encode := by
  induction expr using Expr.induct_operands with
  | step expr ih =>
      rcases expr.eq_literal_or_symbol? with ⟨digits, rfl⟩ | ⟨symbol, known⟩
      · rw [encode_literal]
        exact (legible digits (by simp [literals])).isOperand_encode
      · rw [encode_eq_node]
        refine Node.isOperand_encode ((Node.symbol?_map _ _).trans known) ?_
        rw [Node.operands_map, List.forall_mem_map]
        exact fun operand member => ih operand member fun digits inside =>
          legible digits (mem_literals_of_mem_operands member inside)

end Expr

/-- **The encoded form of a tree reads as the outermost node of the tree**, whose operands are the
encoded forms of the tree's operands. -/
theorem Encoding.read_encode {expr : Expr} (legible : ∀ digits ∈ expr.literals, Legible digits) :
    read expr.encode = .ok (expr.node.map Expr.encode) := by
  rcases expr.eq_literal_or_symbol? with ⟨digits, rfl⟩ | ⟨symbol, known⟩
  · rw [Expr.encode_literal]
    exact read_of_padded_literal (legible digits (by simp [Expr.literals])).trim_encode (.refl _)
  · have legibleOperand (operand : Expr) (member : operand ∈ expr.node.operands)
        (digits : List Char) (inside : digits ∈ operand.literals) : Legible digits :=
      legible digits (Expr.mem_literals_of_mem_operands member inside)
    rw [Expr.encode_eq_node, Node.read_encode ((Node.symbol?_map _ _).trans known),
      Node.map_eq_self]
    all_goals rw [Node.operands_map, List.forall_mem_map]
    · exact fun operand member => Expr.trim_encode (legibleOperand operand member)
    · exact fun operand member => Expr.isOperand_encode (legibleOperand operand member)

end Calculator
