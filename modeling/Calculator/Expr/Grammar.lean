import Calculator.Expr
import Calculator.Token

/-!
# The grammar of expressions

The levels of the grammar, from the loosest to the tightest, are

    conditional   c ::= i9 | i9 '?' c ':' c
    infixed r+1   i  ::= i(r) | i(r+1) op i(r)       op of rank r + 1
    infixed 0     i0 ::= u | u '**' i0
    signed        u ::= p | '+' u | '-' u
    primary       p ::= NUMBER | '(' c ')'

Operators of one rank group to the left, except that `**` and the conditional
group to the right. Parentheses leave nothing in the tree.

A group, the operand of a sign, the right operand of `**` and each branch of a
conditional are nested. The nesting of a derivation is the largest number of
these that enclose one token. Redundant parentheses add to the nesting and not
to the depth of the tree; a chain of operators that group to the left adds to
the depth and not to the nesting.
-/

set_option autoImplicit false

namespace Calculator

/-- A level of the grammar. -/
inductive Stratum where
  | conditional
  | infixed (rank : Nat)
  | signed
  | primary
deriving Repr, DecidableEq

/-- A level derives a sequence of tokens, with a given nesting, as a tree. -/
inductive Derives : Stratum → List Token → Nat → Expr → Prop where
  | number (digits : List Char) :
      Derives .primary [.number digits] 0 (.literal digits)
  | group {tokens : List Token} {nesting : Nat} {tree : Expr}
      (inner : Derives .conditional tokens nesting tree) :
      Derives .primary (.openParen :: (tokens ++ [.closeParen])) (nesting + 1) tree
  | unsigned {tokens : List Token} {nesting : Nat} {tree : Expr}
      (alone : Derives .primary tokens nesting tree) :
      Derives .signed tokens nesting tree
  | plus {tokens : List Token} {nesting : Nat} {tree : Expr}
      (operand : Derives .signed tokens nesting tree) :
      Derives .signed (.operator .add :: tokens) (nesting + 1) (.unary .plus tree)
  | minus {tokens : List Token} {nesting : Nat} {tree : Expr}
      (operand : Derives .signed tokens nesting tree) :
      Derives .signed (.operator .subtract :: tokens) (nesting + 1) (.unary .minus tree)
  | base {tokens : List Token} {nesting : Nat} {tree : Expr}
      (alone : Derives .signed tokens nesting tree) :
      Derives (.infixed 0) tokens nesting tree
  | power {left right : List Token} {outer inner : Nat} {base exponent : Expr}
      (derivesBase : Derives .signed left outer base)
      (derivesExponent : Derives (.infixed 0) right inner exponent) :
      Derives (.infixed 0) (left ++ .operator .power :: right) (max outer (inner + 1))
        (.binary .power base exponent)
  | tighter {rank : Nat} {tokens : List Token} {nesting : Nat} {tree : Expr}
      (alone : Derives (.infixed rank) tokens nesting tree) :
      Derives (.infixed (rank + 1)) tokens nesting tree
  | binary {op : BinaryOperator} {rank : Nat} {left right : List Token} {before after : Nat}
      {first second : Expr} (ranked : op.rank = rank + 1)
      (derivesFirst : Derives (.infixed (rank + 1)) left before first)
      (derivesSecond : Derives (.infixed rank) right after second) :
      Derives (.infixed (rank + 1)) (left ++ .operator op :: right) (max before after)
        (.binary op first second)
  | unconditional {tokens : List Token} {nesting : Nat} {tree : Expr}
      (alone : Derives (.infixed BinaryOperator.loosestRank) tokens nesting tree) :
      Derives .conditional tokens nesting tree
  | conditional {asked chosen otherwise : List Token} {outer first second : Nat}
      {condition whenTrue whenFalse : Expr}
      (derivesCondition : Derives (.infixed BinaryOperator.loosestRank) asked outer condition)
      (derivesTrue : Derives .conditional chosen first whenTrue)
      (derivesFalse : Derives .conditional otherwise second whenFalse) :
      Derives .conditional (asked ++ .question :: (chosen ++ .colon :: otherwise))
        (max outer (max first second + 1)) (.conditional condition whenTrue whenFalse)

end Calculator
