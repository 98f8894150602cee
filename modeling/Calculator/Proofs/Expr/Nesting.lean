import Calculator.Proofs.Expr.Acceptance

/-!
# The limits of the parser

The parser accepts what the grammar derives within the limits, and nothing else
(`parse_accepts_within_limits`). What it compares with `Limits.maxNesting` is the
nesting of a derivation, and what it compares with `Limits.maxDepth` is the depth of
the tree, so that both limits are exact.

**One nesting for each sequence of tokens.** A sequence of tokens derives at most one
tree, but the tree does not tell the nesting, since redundant parentheses leave
nothing in it. They do leave something if each of them is preceded by a sign. The
grammar derives the signed tokens too (`Derives.signGroups`), and what they derive
tells the nesting (`Expr.openness`). So no sequence of tokens has derivations of
different nesting (`nesting_unique`).
-/

set_option autoImplicit false

namespace Calculator

/-- How many operands of signs, right operands of `**` and branches of conditionals lie around one
place of a tree, at most. -/
def Expr.openness : Expr → Nat
  | literal _ => 0
  | unary _ operand => operand.openness + 1
  | binary .power left right => max left.openness (right.openness + 1)
  | binary _ left right => max left.openness right.openness
  | conditional condition whenTrue whenFalse =>
      max condition.openness (max whenTrue.openness whenFalse.openness + 1)

theorem Expr.openness_binary {op : BinaryOperator} (other : op ≠ .power) (left right : Expr) :
    (binary op left right).openness = max left.openness right.openness := by
  cases op <;> first | rfl | exact absurd rfl other

/-- The token, with a sign in front of it if it opens a group. -/
def Token.signGroup : Token → List Token
  | .openParen => [.operator .add, .openParen]
  | token => [token]

/-- The level of the signed tokens of a level. Only a primary starts with a parenthesis, and with a
sign in front it is no primary any more. -/
def Stratum.admittingSign : Stratum → Stratum
  | .primary => .signed
  | stratum => stratum

namespace Derives

/-- **With a sign in front of each group, the tree tells the nesting.** -/
theorem signGroups {stratum : Stratum} {words : List Token} {nesting : Nat} {tree : Expr}
    (derives : Derives stratum words nesting tree) :
    ∃ inner signed, Derives stratum.admittingSign (words.flatMap Token.signGroup) inner signed ∧
      signed.openness = nesting := by
  induction derives with
  | number digits => exact ⟨_, _, .unsigned (.number digits), rfl⟩
  | group _ ih =>
      obtain ⟨inner, signed, derives, same⟩ := ih
      refine ⟨inner + 1 + 1, .unary .plus signed, ?_, by simp only [Expr.openness, same]⟩
      simpa [Token.signGroup, Stratum.admittingSign] using derives.group.unsigned.plus
  | unsigned _ ih => exact ih
  | plus _ ih =>
      obtain ⟨inner, signed, derives, same⟩ := ih
      exact ⟨_, _, derives.plus, by simp only [Expr.openness, same]⟩
  | minus _ ih =>
      obtain ⟨inner, signed, derives, same⟩ := ih
      exact ⟨_, _, derives.minus, by simp only [Expr.openness, same]⟩
  | base _ ih =>
      obtain ⟨inner, signed, derives, same⟩ := ih
      exact ⟨_, _, derives.base, same⟩
  | power _ _ ihBase ihExponent =>
      obtain ⟨outer, base, derivesBase, sameBase⟩ := ihBase
      obtain ⟨inner, exponent, derivesExponent, sameExponent⟩ := ihExponent
      refine ⟨max outer (inner + 1), .binary .power base exponent, ?_,
        by simp only [Expr.openness, sameBase, sameExponent]⟩
      simpa [Token.signGroup, Stratum.admittingSign] using derivesBase.power derivesExponent
  | tighter _ ih =>
      obtain ⟨inner, signed, derives, same⟩ := ih
      exact ⟨_, _, derives.tighter, same⟩
  | @binary op rank _ _ _ _ _ _ ranked _ _ ihFirst ihSecond =>
      obtain ⟨before, first, derivesFirst, sameFirst⟩ := ihFirst
      obtain ⟨after, second, derivesSecond, sameSecond⟩ := ihSecond
      have other : op ≠ .power := by
        rintro rfl
        cases ranked
      refine ⟨max before after, .binary op first second, ?_,
        by rw [Expr.openness_binary other, sameFirst, sameSecond]⟩
      simpa [Token.signGroup, Stratum.admittingSign] using derivesFirst.binary ranked derivesSecond
  | unconditional _ ih =>
      obtain ⟨inner, signed, derives, same⟩ := ih
      exact ⟨_, _, derives.unconditional, same⟩
  | conditional _ _ _ ihCondition ihTrue ihFalse =>
      obtain ⟨outer, condition, derivesCondition, sameCondition⟩ := ihCondition
      obtain ⟨first, whenTrue, derivesTrue, sameTrue⟩ := ihTrue
      obtain ⟨second, whenFalse, derivesFalse, sameFalse⟩ := ihFalse
      refine ⟨max outer (max first second + 1), .conditional condition whenTrue whenFalse, ?_,
        by simp only [Expr.openness, sameCondition, sameTrue, sameFalse]⟩
      simpa [Token.signGroup, Stratum.admittingSign] using
        derivesCondition.conditional derivesTrue derivesFalse

end Derives

/-- All derivations of a sequence of tokens have the same nesting. -/
theorem nesting_unique {words : List Token} {nesting nesting' : Nat} {tree tree' : Expr}
    (first : Derives .conditional words nesting tree)
    (second : Derives .conditional words nesting' tree') : nesting = nesting' := by
  obtain ⟨_, _, derives, rfl⟩ := first.signGroups
  obtain ⟨_, _, derives', rfl⟩ := second.signGroups
  rw [derives_unique derives derives']

/-- **The limits cut off exactly.** A sequence of tokens parses to an expression if and only if the
grammar derives it as that expression, with a nesting of at most `maxNesting`, and the expression is
no deeper than `maxDepth`. The tokens alone determine the nesting and the expression. -/
theorem parse_accepts_within_limits (limits : Limits) (tokens : List Located) :
    (∀ expr, (parse limits tokens).outcome = .ok expr ↔
      ∃ nesting, Derives .conditional (tokens.map Located.token) nesting expr ∧
        nesting ≤ limits.maxNesting ∧ expr.depth ≤ limits.maxDepth) ∧
    ∀ nesting nesting' expr expr', Derives .conditional (tokens.map Located.token) nesting expr →
      Derives .conditional (tokens.map Located.token) nesting' expr' →
        nesting = nesting' ∧ expr = expr' := by
  refine ⟨fun expr => ⟨Parse.exists_derives_of_parse, ?_⟩, ?_⟩
  · rintro ⟨nesting, derives, fits, shallow⟩
    exact Parse.parse_of_derives derives fits shallow
  · intro nesting nesting' expr expr' first second
    exact ⟨nesting_unique first second, derives_unique first second⟩

/-- The operand of the sign in `-(1)**2` is nested, and so is the group in it: the nesting is two,
and the depth is three. Less of either is refused. -/
theorem parse_accepts_within_limits_of_signed_group :
    let tokens : List Located := [⟨.operator .subtract, 0⟩, ⟨.openParen, 1⟩, ⟨.number ['1'], 2⟩,
      ⟨.closeParen, 3⟩, ⟨.operator .power, 4⟩, ⟨.number ['2'], 6⟩]
    let tree := Expr.binary .power (.unary .minus (.literal ['1'])) (.literal ['2'])
    (parse ⟨2, 3⟩ tokens).outcome = .ok tree ∧
      (parse ⟨1, 3⟩ tokens).outcome = .error (.nestingTooDeep 1) ∧
      (parse ⟨2, 2⟩ tokens).outcome = .error (.treeTooDeep 2) ∧
      ∀ nesting expr, Derives .conditional (tokens.map Located.token) nesting expr ↔
        nesting = 2 ∧ expr = tree := by
  intro tokens tree
  have parsed : (parse ⟨2, 3⟩ tokens).outcome = .ok tree := by cbv
  have refused : (parse ⟨1, 3⟩ tokens).outcome = .error (.nestingTooDeep 1) := by cbv
  have refused' : (parse ⟨2, 2⟩ tokens).outcome = .error (.treeTooDeep 2) := by cbv
  obtain ⟨accepts, unique⟩ := parse_accepts_within_limits ⟨2, 3⟩ tokens
  obtain ⟨nesting, derives, fits, shallow⟩ := (accepts tree).mp parsed
  have exact : nesting = 2 := by
    by_contra other
    have parsed' : (parse ⟨1, 3⟩ tokens).outcome = .ok tree :=
      ((parse_accepts_within_limits ⟨1, 3⟩ tokens).1 tree).mpr
        ⟨nesting, derives, by simp only at fits ⊢; omega, shallow⟩
    rw [refused] at parsed'
    cases parsed'
  subst exact
  refine ⟨parsed, refused, refused', fun nesting expr => ⟨fun derives' => ?_, ?_⟩⟩
  · exact unique _ _ _ _ derives' derives
  · rintro ⟨rfl, rfl⟩
    exact derives

end Calculator
