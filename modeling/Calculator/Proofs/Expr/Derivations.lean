import Mathlib.Data.List.Induction
import Calculator.Expr.Grammar

/-!
# Derivations

What a derivation says about the tokens and the tree. A tree is no deeper than its
tokens are many, its nesting is less than that, and its literals are number tokens
of the sequence.

The grammar states a level of operators that group to the left by a rule that
refers to the level itself. The level is the same as a first operand and a list of
operators with their right operands, folded from the left
(`derives_infixed_succ_iff`).
-/

set_option autoImplicit false

namespace Calculator

namespace Derives

variable {stratum : Stratum} {tokens : List Token} {nesting : Nat} {tree : Expr}

/-- Each construct that counts as nested has a token of its own, and so has each level of a tree. -/
theorem nesting_lt_and_depth_le_length (derives : Derives stratum tokens nesting tree) :
    nesting < tokens.length ∧ tree.depth ≤ tokens.length := by
  induction derives with
  | number digits => simp [Expr.depth]
  | group _ ih =>
      simp only [List.length_cons, List.length_append, List.length_nil]
      omega
  | unsigned _ ih => exact ih
  | plus _ ih | minus _ ih =>
      simp only [Expr.depth, List.length_cons]
      omega
  | base _ ih => exact ih
  | power _ _ ihFirst ihSecond | binary _ _ _ ihFirst ihSecond =>
      simp only [Expr.depth, List.length_append, List.length_cons]
      omega
  | tighter _ ih => exact ih
  | unconditional _ ih => exact ih
  | conditional _ _ _ ihCondition ihTrue ihFalse =>
      simp only [Expr.depth, List.length_append, List.length_cons]
      omega

/-- The literals of the tree are the number tokens. -/
theorem mem_literals_iff (derives : Derives stratum tokens nesting tree) {digits : List Char} :
    digits ∈ tree.literals ↔ Token.number digits ∈ tokens := by
  induction derives with
  | number digits => simp [Expr.literals]
  | group _ ih => simpa using ih
  | unsigned _ ih => exact ih
  | plus _ ih | minus _ ih => simpa [Expr.literals] using ih
  | base _ ih => exact ih
  | tighter _ ih => exact ih
  | power _ _ ihFirst ihSecond | binary _ _ _ ihFirst ihSecond =>
      simp [Expr.literals, ihFirst, ihSecond]
  | unconditional _ ih => exact ih
  | conditional _ _ _ ihCondition ihTrue ihFalse =>
      simp [Expr.literals, ihCondition, ihTrue, ihFalse]

/-- What an infix level derives a looser one derives too. -/
theorem infixed_of_le {rank rank' : Nat} (looser : rank ≤ rank')
    (derives : Derives (.infixed rank) tokens nesting tree) :
    Derives (.infixed rank') tokens nesting tree := by
  induction looser with
  | refl => exact derives
  | step _ ih => exact ih.tighter

/-- What the signed level derives every level but the tightest derives. -/
theorem of_signed (other : stratum ≠ .primary) (derives : Derives .signed tokens nesting tree) :
    Derives stratum tokens nesting tree := by
  cases stratum with
  | primary => exact absurd rfl other
  | signed => exact derives
  | infixed rank => exact derives.base.infixed_of_le (Nat.zero_le rank)
  | conditional => exact .unconditional (derives.base.infixed_of_le (Nat.zero_le _))

end Derives

/-! ## Chains that group to the left -/

/-- An operator of a chain and the operand to its right, as tokens and as a tree. -/
structure Link where
  op : BinaryOperator
  tokens : List Token
  nesting : Nat
  tree : Expr

namespace Link

/-- The tokens of a chain: those of its first operand, and each operator with its operand. -/
def tokensFrom (first : List Token) (links : List Link) : List Token :=
  first ++ links.flatMap fun link => .operator link.op :: link.tokens

/-- The nesting of a chain: the largest of its operands'. -/
def nestingFrom (first : Nat) (links : List Link) : Nat :=
  links.foldl (fun nesting link => max nesting link.nesting) first

/-- The tree of a chain: each operator takes everything to its left. -/
def treeFrom (first : Expr) (links : List Link) : Expr :=
  links.foldl (fun left link => .binary link.op left link.tree) first

end Link

/-- **A level of operators that group to the left is a chain.** It derives a first operand of the
next tighter level and any number of operators of its rank, each with an operand of the next tighter
level to its right, and the tree folds them from the left. -/
theorem derives_infixed_succ_iff {rank : Nat} {tokens : List Token} {nesting : Nat} {tree : Expr} :
    Derives (.infixed (rank + 1)) tokens nesting tree ↔
      ∃ first outer head links, Derives (.infixed rank) first outer head ∧
        (∀ link ∈ links, link.op.rank = rank + 1 ∧
          Derives (.infixed rank) link.tokens link.nesting link.tree) ∧
        tokens = Link.tokensFrom first links ∧ nesting = Link.nestingFrom outer links ∧
        tree = Link.treeFrom head links := by
  constructor
  · intro derives
    generalize level : Stratum.infixed (rank + 1) = stratum at derives
    induction derives with
    | tighter alone ih =>
        cases level
        exact ⟨_, _, _, [], alone, by simp, by simp [Link.tokensFrom], rfl, rfl⟩
    | @binary op rank left right before after first second ranked _ derivesSecond ihFirst =>
        cases level
        obtain ⟨opening, outer, head, links, derivesHead, each, rfl, rfl, rfl⟩ := ihFirst rfl
        refine ⟨opening, outer, head, links ++ [⟨op, right, after, second⟩], derivesHead, ?_, ?_,
          ?_, ?_⟩
        · intro link member
          rcases List.mem_append.mp member with member | member
          · exact each link member
          · rw [List.mem_singleton.mp member]
            exact ⟨ranked, derivesSecond⟩
        · simp [Link.tokensFrom]
        · simp [Link.nestingFrom]
        · simp [Link.treeFrom]
    | _ => cases level
  · rintro ⟨first, outer, head, links, derivesHead, each, rfl, rfl, rfl⟩
    induction links using List.reverseRecOn with
    | nil => simpa [Link.tokensFrom, Link.nestingFrom, Link.treeFrom] using derivesHead.tighter
    | append_singleton links link ih =>
        have last := each link (by simp)
        have whole := Derives.binary last.1
          (ih fun other member => each other (by simp [member])) last.2
        simpa [Link.tokensFrom, Link.nestingFrom, Link.treeFrom] using whole

end Calculator
