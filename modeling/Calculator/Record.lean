import Calculator.Encoding
import Calculator.Token
import Calculator.Value

/-!
# Records of a calculation

A calculation leaves a record of each step that it takes. A record is data: what
happened and to what. Its wording is in `Record.text`, and `Record.level` says
whether it belongs to the summary of a run or to its details.
-/

set_option autoImplicit false

namespace Calculator

/-- How much attention a record deserves. -/
inductive Level where
  /-- A detail of a stage. -/
  | trace
  /-- The outcome of a stage. -/
  | debug
deriving Repr, DecidableEq

/-- One step of a calculation. -/
inductive Record where
  /-- A token was read. -/
  | scanned (token : Located)
  /-- The source text consists of so many tokens. -/
  | tokenized (count : Nat)
  /-- A tree was built from its operands. -/
  | folded (tree : Expr)
  /-- The tokens form an expression of this depth. -/
  | measured (depth : Nat)
  /-- The source text is this expression. -/
  | parsed (tree : Expr)
  /-- Evaluation or decoding reached a node, which is shown in encoded form. -/
  | entered (depth : Nat) (node : List Char)
  /-- A bitwise operator was applied. -/
  | combined (op : BinaryOperator) (left right result : Value)
  /-- The expression has this value. -/
  | evaluated (value : Value)
deriving DecidableEq

namespace Record

/-- Whether the record is a detail or an outcome. -/
def level : Record → Level
  | tokenized _ | measured _ | parsed _ | evaluated _ => .debug
  | _ => .trace

/-- The wording of a record. -/
def text : Record → String
  | scanned token => s!"token {String.ofList token.token.text} at {token.position}"
  | tokenized count => s!"tokenized {count} token(s)"
  | folded tree => s!"fold {String.ofList tree.encode}"
  | measured depth => s!"parsed expression of depth {depth}"
  | parsed tree => s!"parsed {String.ofList tree.encode}"
  | entered depth node => s!"eval at depth {depth}: {String.ofList node}"
  | combined op left right result =>
      let operation := String.ofList (left.text ++ ' ' :: op.symbol ++ ' ' :: right.text)
      s!"{operation} = {String.ofList result.text}"
  | evaluated value => s!"evaluated to {String.ofList value.text}"

end Record

end Calculator
