import Calculator.Expr.Grammar
import Calculator.Limits
import Calculator.Traced
import Calculator.Failure

/-!
# Reading an expression from tokens

Tokens are read by recursive descent through the levels of the grammar. A level
returns the tree that it read, its depth and the tokens that it left, which are
fewer than those it was given.

What the grammar nests counts against `Limits.maxNesting` while it is read. A
tree counts against `Limits.maxDepth` when it is built, and leaves a record.
-/

set_option autoImplicit false

namespace Calculator

/-- A tree together with its depth. -/
structure Measured where
  tree : Expr
  depth : Nat
deriving Repr, DecidableEq

/-- A tree read from the start of `tokens`, and the tokens after it. -/
structure Parsed (tokens : List Located) where
  read : Measured
  rest : List Located
  shorter : rest.length < tokens.length

namespace Parse

/-- The number of levels between a level and the one that reads a token. -/
def height : Stratum → Nat
  | .primary => 0
  | .signed => 1
  | .infixed rank => rank + 2
  | .conditional => BinaryOperator.loosestRank + 3

/-- The nesting inside a construct that opens at a given nesting. -/
def deeper (limits : Limits) (nesting : Nat) : Traced ParseError Nat :=
  if limits.maxNesting ≤ nesting then .fail (.nestingTooDeep limits.maxNesting)
  else pure (nesting + 1)

/-- A tree that has just been built from its operands. -/
def fold (limits : Limits) (tree : Expr) (depth : Nat) : Traced ParseError Measured := do
  if limits.maxDepth < depth then .fail (.treeTooDeep limits.maxDepth)
  else
    .log (.folded tree)
    return ⟨tree, depth⟩

/-- A literal. -/
def foldLiteral (limits : Limits) (digits : List Char) : Traced ParseError Measured :=
  fold limits (.literal digits) 1

/-- A unary operator on an operand. -/
def foldUnary (limits : Limits) (op : UnaryOperator) (operand : Measured) :
    Traced ParseError Measured :=
  fold limits (.unary op operand.tree) (operand.depth + 1)

/-- A binary operator on two operands. -/
def foldBinary (limits : Limits) (op : BinaryOperator) (left right : Measured) :
    Traced ParseError Measured :=
  fold limits (.binary op left.tree right.tree) (max left.depth right.depth + 1)

/-- A conditional of a condition and two branches. -/
def foldConditional (limits : Limits) (condition whenTrue whenFalse : Measured) :
    Traced ParseError Measured :=
  fold limits (.conditional condition.tree whenTrue.tree whenFalse.tree)
    (max (max condition.depth whenTrue.depth) whenFalse.depth + 1)

/-- The sign that a token is in front of an operand. -/
def sign? : Token → Option UnaryOperator
  | .operator .add => some .plus
  | .operator .subtract => some .minus
  | _ => none

mutual

/-- Reads a tree of a level from the start of the tokens, at a given nesting. -/
def treeAt (limits : Limits) (stratum : Stratum) (nesting : Nat) (tokens : List Located) :
    Traced ParseError (Parsed tokens) :=
  match stratum, tokens with
  | .conditional, tokens => do
      match ← treeAt limits (.infixed BinaryOperator.loosestRank) nesting tokens with
      | ⟨condition, ⟨.question, question⟩ :: rest, _⟩ =>
          let nesting ← deeper limits nesting
          match ← treeAt limits .conditional nesting rest with
          | ⟨whenTrue, ⟨.colon, _⟩ :: rest, _⟩ =>
              let ⟨whenFalse, rest, _⟩ ← treeAt limits .conditional nesting rest
              let read ← foldConditional limits condition whenTrue whenFalse
              return ⟨read, rest, by simp only [List.length_cons] at *; omega⟩
          | _ => .fail (.missingColon question)
      | alone => return alone
  | .infixed (rank + 1), tokens => do
      let ⟨left, rest, shorter⟩ ← treeAt limits (.infixed rank) nesting tokens
      continueFrom limits rank nesting ⟨left, rest, shorter⟩
  | .infixed 0, tokens => do
      match ← treeAt limits .signed nesting tokens with
      | ⟨base, ⟨.operator .power, _⟩ :: rest, _⟩ =>
          let nesting ← deeper limits nesting
          let ⟨exponent, rest, _⟩ ← treeAt limits (.infixed 0) nesting rest
          let read ← foldBinary limits .power base exponent
          return ⟨read, rest, by simp only [List.length_cons] at *; omega⟩
      | alone => return alone
  | .signed, [] => treeAt limits .primary nesting []
  | .signed, ⟨token, position⟩ :: rest =>
      match sign? token with
      | some op => do
          let nesting ← deeper limits nesting
          let ⟨operand, rest, _⟩ ← treeAt limits .signed nesting rest
          let read ← foldUnary limits op operand
          return ⟨read, rest, by simp only [List.length_cons] at *; omega⟩
      | none => treeAt limits .primary nesting (⟨token, position⟩ :: rest)
  | .primary, [] => .fail .unexpectedEnd
  | .primary, ⟨.number digits, _⟩ :: rest => do
      let read ← foldLiteral limits digits
      return ⟨read, rest, by simp⟩
  | .primary, ⟨.openParen, opened⟩ :: rest => do
      let nesting ← deeper limits nesting
      match ← treeAt limits .conditional nesting rest with
      | ⟨inner, ⟨.closeParen, _⟩ :: rest, _⟩ =>
          return ⟨inner, rest, by simp only [List.length_cons] at *; omega⟩
      | _ => .fail (.unclosedParenthesis opened)
  | .primary, ⟨found, position⟩ :: _ => .fail (.expectedOperand found position)
termination_by (tokens.length, height stratum)
decreasing_by
  all_goals
    simp only [Prod.lex_def, List.length_cons, height, BinaryOperator.loosestRank, true_and] at *
    omega

/-- Reads the operators of rank `rank + 1` that follow a tree, with their right operands, and folds
each onto what stands to its left. -/
def continueFrom (limits : Limits) (rank nesting : Nat) {tokens : List Located}
    (left : Parsed tokens) : Traced ParseError (Parsed tokens) :=
  match left with
  | ⟨leftRead, ⟨.operator op, position⟩ :: rest, shorter⟩ =>
      if op.rank = rank + 1 then do
        let ⟨right, rest', shorter'⟩ ← treeAt limits (.infixed rank) nesting rest
        let read ← foldBinary limits op leftRead right
        continueFrom limits rank nesting
          ⟨read, rest', by simp only [List.length_cons] at *; omega⟩
      else pure ⟨leftRead, ⟨.operator op, position⟩ :: rest, shorter⟩
  | left => pure left
termination_by (left.rest.length, 0)
decreasing_by
  all_goals
    simp only [Prod.lex_def, List.length_cons] at *
    omega

end

end Parse

/-- The expression that a sequence of tokens is. -/
def parse (limits : Limits) (tokens : List Located) : Traced ParseError Expr := do
  let ⟨read, rest, _⟩ ← Parse.treeAt limits .conditional 0 tokens
  match rest with
  | ⟨found, position⟩ :: _ => .fail (.trailingInput found position)
  | [] =>
      .log (.measured read.depth)
      return read.tree

end Calculator
