import Calculator.Proofs.Expr.Blame
import Calculator.Proofs.RoundTrip
import Calculator.Proofs.Token.Spelling

/-!
# Infix form

An expression is written in infix form with parentheses around an operand only where the
level of the grammar that reads the operand does not derive it without
(`Expr.infixTokens`). Source text expresses the expressions without `!` whose literals are
well-formed, and no others, and it expresses them in this form
(`parseSource_expresses`): the form parses to the expression that it is the form of, with any
separators between its tokens or none.

**Room.** An operand that is written in parentheses is nested for them, and perhaps for
the operator. So the nesting of the form is less than twice the depth of the expression
(`Expr.exists_derives_infixTokens`).

**Parentheses.** No sequence of tokens that the grammar derives as the expression has fewer
parentheses (`Expr.count_placed_le`).
-/

set_option autoImplicit false

namespace Calculator

/-- The unary operators of an expression, from left to right. -/
def Expr.unaryOperators : Expr → List UnaryOperator
  | literal _ => []
  | unary op operand => op :: operand.unaryOperators
  | binary _ left right => left.unaryOperators ++ right.unaryOperators
  | conditional condition whenTrue whenFalse =>
      condition.unaryOperators ++ whenTrue.unaryOperators ++ whenFalse.unaryOperators

/-- The expression has no `!`, and its literals are well-formed. -/
def Expr.Expressible (expr : Expr) : Prop :=
  UnaryOperator.not ∉ expr.unaryOperators ∧
    ∀ digits ∈ expr.literals, Number.isLiteral digits = true

/-! ## The form -/

/-- The level of the grammar derives the expression without parentheses around it. -/
def Stratum.admits : Stratum → Expr → Bool
  | _, .literal _ => true
  | .primary, _ => false
  | _, .unary _ _ => true
  | .signed, _ => false
  | .infixed rank, .binary op _ _ => op.rank ≤ rank
  | .infixed _, .conditional _ _ _ => false
  | .conditional, _ => true

/-- The tokens of an expression at a level, in parentheses if the level does not derive it. -/
def Stratum.place (stratum : Stratum) (expr : Expr) (tokens : List Token) : List Token :=
  if stratum.admits expr then tokens else .openParen :: (tokens ++ [.closeParen])

/-- The token of a sign. Source text has none for `!`. -/
def UnaryOperator.sign : UnaryOperator → List Token
  | plus => [.operator .add]
  | minus => [.operator .subtract]
  | not => []

/-- The level of a left operand: that of the operator itself, since operators group to the left, but
for `**` that of a signed operand. -/
def BinaryOperator.leftStratum : BinaryOperator → Stratum
  | power => .signed
  | op => .infixed op.rank

/-- The level of a right operand: one tighter than the operator, but for `**`, which groups to the
right, the same. -/
def BinaryOperator.rightStratum : BinaryOperator → Stratum
  | power => .infixed 0
  | op => .infixed (op.rank - 1)

theorem BinaryOperator.eq_power_of_rank_eq_zero {op : BinaryOperator} (tightest : op.rank = 0) :
    op = .power := by
  cases op <;> first | rfl | cases tightest

/-- The levels of the operands of an operator that groups to the left. -/
theorem BinaryOperator.strata_of_rank_eq_succ {op : BinaryOperator} {rank : Nat}
    (ranked : op.rank = rank + 1) :
    op.leftStratum = .infixed (rank + 1) ∧ op.rightStratum = .infixed rank := by
  cases op <;> cases ranked <;> exact ⟨rfl, rfl⟩

/-- The tokens of an expression in infix form. -/
def Expr.infixTokens : Expr → List Token
  | literal digits => [.number digits]
  | unary op operand => op.sign ++ Stratum.signed.place operand operand.infixTokens
  | binary op left right =>
      op.leftStratum.place left left.infixTokens ++
        .operator op :: op.rightStratum.place right right.infixTokens
  | conditional condition whenTrue whenFalse =>
      (Stratum.infixed BinaryOperator.loosestRank).place condition condition.infixTokens ++
        .question :: (Stratum.conditional.place whenTrue whenTrue.infixTokens ++
          .colon :: Stratum.conditional.place whenFalse whenFalse.infixTokens)

namespace Expr

variable {limits : Limits} {stratum : Stratum} {words : List Token} {nesting : Nat} {expr : Expr}

/-! ## What is derived -/

/-- The tightest level that derives an expression without parentheses around it. -/
def tightest : Expr → Stratum
  | literal _ => .primary
  | unary _ _ => .signed
  | binary op _ _ => .infixed op.rank
  | conditional _ _ _ => .conditional

/-- A level that admits an expression derives what its tightest level derives. -/
theorem derives_of_admits (admits : stratum.admits expr = true)
    (derives : Derives expr.tightest words nesting expr) :
    Derives stratum words nesting expr := by
  cases expr with
  | literal digits =>
      by_cases same : stratum = .primary
      · exact same ▸ derives
      · exact .of_signed same (.unsigned derives)
  | unary op operand =>
      refine .of_signed ?_ derives
      rintro rfl
      cases admits
  | binary op left right =>
      cases stratum with
      | primary | signed => cases admits
      | infixed rank => exact derives.infixed_of_le (of_decide_eq_true admits)
      | conditional => exact .unconditional (derives.infixed_of_le op.rank_le_loosestRank)
  | conditional condition whenTrue whenFalse =>
      cases stratum with
      | primary | signed | infixed rank => cases admits
      | conditional => exact derives

/-- At every level the tokens of an expression are derived, with parentheses where they are
needed. -/
theorem exists_derives_place (stratum : Stratum)
    (derives : Derives expr.tightest words nesting expr) :
    ∃ inner ≤ nesting + 1, Derives stratum (stratum.place expr words) inner expr := by
  unfold Stratum.place
  split
  · rename_i admits
    exact ⟨nesting, Nat.le_succ nesting, derives_of_admits admits derives⟩
  · have inside : Derives .conditional words nesting expr :=
      derives_of_admits (by cases expr <;> rfl) derives
    by_cases same : stratum = .primary
    · exact ⟨nesting + 1, Nat.le_refl _, same ▸ inside.group⟩
    · exact ⟨nesting + 1, Nat.le_refl _, .of_signed same (.unsigned inside.group)⟩

/-- **The form derives its expression**, with a nesting below twice the depth. -/
theorem exists_derives_infixTokens (sourced : UnaryOperator.not ∉ expr.unaryOperators) :
    ∃ nesting, nesting + 2 ≤ 2 * expr.depth ∧
      Derives expr.tightest expr.infixTokens nesting expr := by
  induction expr with
  | literal digits => exact ⟨0, Nat.le_refl _, .number digits⟩
  | unary op operand ih =>
      simp only [unaryOperators, List.mem_cons, not_or] at sourced
      obtain ⟨nesting, room, derives⟩ := ih sourced.2
      obtain ⟨inner, fits, derives⟩ := exists_derives_place .signed derives
      refine ⟨inner + 1, by simp only [depth]; omega, ?_⟩
      cases op with
      | plus => exact derives.plus
      | minus => exact derives.minus
      | not => exact absurd rfl sourced.1
  | binary op left right ihLeft ihRight =>
      simp only [unaryOperators, List.mem_append, not_or] at sourced
      obtain ⟨before, roomLeft, derivesLeft⟩ := ihLeft sourced.1
      obtain ⟨after, roomRight, derivesRight⟩ := ihRight sourced.2
      obtain ⟨outer, fitsLeft, derivesLeft⟩ := exists_derives_place op.leftStratum derivesLeft
      obtain ⟨inner, fitsRight, derivesRight⟩ := exists_derives_place op.rightStratum derivesRight
      cases ranked : op.rank with
      | zero =>
          obtain rfl := op.eq_power_of_rank_eq_zero ranked
          exact ⟨max outer (inner + 1), by simp only [depth]; omega, derivesLeft.power derivesRight⟩
      | succ rank =>
          obtain ⟨sameLeft, sameRight⟩ := op.strata_of_rank_eq_succ ranked
          refine ⟨max outer inner, by simp only [depth]; omega, ?_⟩
          rw [tightest, infixTokens, ranked, sameLeft, sameRight]
          rw [sameLeft] at derivesLeft
          rw [sameRight] at derivesRight
          exact derivesLeft.binary ranked derivesRight
  | conditional condition whenTrue whenFalse ihCondition ihTrue ihFalse =>
      simp only [unaryOperators, List.mem_append, not_or] at sourced
      obtain ⟨_, roomCondition, derivesCondition⟩ := ihCondition sourced.1.1
      obtain ⟨_, roomTrue, derivesTrue⟩ := ihTrue sourced.1.2
      obtain ⟨_, roomFalse, derivesFalse⟩ := ihFalse sourced.2
      obtain ⟨outer, fits, derivesCondition⟩ :=
        exists_derives_place (.infixed BinaryOperator.loosestRank) derivesCondition
      obtain ⟨first, fitsTrue, derivesTrue⟩ := exists_derives_place .conditional derivesTrue
      obtain ⟨second, fitsFalse, derivesFalse⟩ := exists_derives_place .conditional derivesFalse
      exact ⟨max outer (max first second + 1), by simp only [depth]; omega,
        derivesCondition.conditional derivesTrue derivesFalse⟩

/-! ## The fewest parentheses -/

/-- The loosest level derives every expression without parentheses. -/
theorem admits_conditional (expr : Expr) : Stratum.conditional.admits expr = true := by
  cases expr <;> rfl

theorem place_of_admits (admits : stratum.admits expr = true) :
    stratum.place expr words = words :=
  if_pos admits

/-- A looser level needs no more parentheses. -/
theorem count_place_le {looser : Stratum} (words : List Token)
    (admits : stratum.admits expr = true → looser.admits expr = true) :
    (looser.place expr words).count .openParen ≤ (stratum.place expr words).count .openParen := by
  unfold Stratum.place
  split <;> split <;> simp_all

/-- **No derivation has fewer parentheses.** -/
theorem count_placed_le (derives : Derives stratum words nesting expr) :
    (stratum.place expr expr.infixTokens).count .openParen ≤ words.count .openParen := by
  induction derives with
  | number digits => exact Nat.le_refl _
  | @group _ _ tree _ ih =>
      rw [place_of_admits (admits_conditional tree)] at ih
      unfold Stratum.place
      split <;> simp <;> omega
  | @unsigned _ _ tree _ ih =>
      exact (count_place_le _ (by cases tree <;> simp [Stratum.admits])).trans ih
  | plus _ ih | minus _ ih =>
      rw [place_of_admits rfl]
      simpa [infixTokens, UnaryOperator.sign] using ih
  | @base _ _ tree _ ih =>
      exact (count_place_le _ (by cases tree <;> simp [Stratum.admits])).trans ih
  | power _ _ ihBase ihExponent =>
      rw [place_of_admits rfl]
      simpa [infixTokens, BinaryOperator.leftStratum, BinaryOperator.rightStratum] using
        Nat.add_le_add ihBase ihExponent
  | @tighter rank _ _ tree _ ih =>
      refine (count_place_le _ ?_).trans ih
      cases tree <;> simp [Stratum.admits]
      omega
  | binary ranked _ _ ihFirst ihSecond =>
      obtain ⟨sameLeft, sameRight⟩ := BinaryOperator.strata_of_rank_eq_succ ranked
      rw [place_of_admits (by simp [Stratum.admits, ranked]), infixTokens, sameLeft, sameRight]
      simpa using Nat.add_le_add ihFirst ihSecond
  | @unconditional _ _ tree _ ih =>
      exact (count_place_le _ fun _ => admits_conditional tree).trans ih
  | conditional _ _ _ ihCondition ihTrue ihFalse =>
      rw [place_of_admits rfl]
      simpa [infixTokens] using Nat.add_le_add ihCondition (Nat.add_le_add ihTrue ihFalse)

/-! ## Source text -/

/-- A tree that is derived has no `!`. -/
theorem not_mem_unaryOperators_of_derives (derives : Derives stratum words nesting expr) :
    UnaryOperator.not ∉ expr.unaryOperators := by
  induction derives with
  | number digits => simp [unaryOperators]
  | group _ ih => exact ih
  | unsigned _ ih => exact ih
  | plus _ ih | minus _ ih => simpa [unaryOperators] using ih
  | base _ ih => exact ih
  | tighter _ ih => exact ih
  | power _ _ ihFirst ihSecond | binary _ _ _ ihFirst ihSecond =>
      simpa [unaryOperators] using ⟨ihFirst, ihSecond⟩
  | unconditional _ ih => exact ih
  | conditional _ _ _ ihCondition ihTrue ihFalse =>
      simpa [unaryOperators] using ⟨ihCondition, ihTrue, ihFalse⟩

end Expr

/-- Tokens that are derived are read back from every text that spells them. -/
theorem exists_tokenize_of_spells {words : List Token} {nesting : Nat} {expr : Expr}
    {text : List Char} (derives : Derives .conditional words nesting expr)
    (form : ∀ digits ∈ expr.literals, Number.isLiteral digits = true)
    (spells : Spells words text) :
    ∃ tokens, (tokenize text).outcome = .ok tokens ∧ tokens.map Located.token = words := by
  have formed : Token.LiteralsFormed words := fun digits member =>
    Number.isLiteral_iff.mp (form digits (derives.mem_literals_iff.mpr member))
  have chain : words.IsChain Token.MayFollow := by
    let placed := words.map fun word => (⟨word, 0⟩ : Located)
    have same : placed.map Located.token = words := by simp [placed, Function.comp_def]
    have expression : IsExpression placed := ⟨nesting, expr, same ▸ derives⟩
    exact same ▸ isChain_of_run? (isExpression_iff.mp expression)
  obtain ⟨tokens, same, lexes⟩ := exists_lexes_of_spells spells formed chain 0
  exact ⟨tokens, outcome_tokenize_of_lexes lexes, same⟩

/-- **Source text expresses the expressions without `!`, with the fewest parentheses.** What is
parsed from source text is such an expression. Every such expression is parsed from its infix form,
with any separators or none between the tokens, under limits of its depth and of twice its depth for
the nesting. Under the default limits the text has then the encoded form of the expression. No
sequence of tokens that the grammar derives as the expression has fewer parentheses. -/
theorem parseSource_expresses :
    (∀ limits source expr, parseSource limits source = .ok expr → expr.Expressible) ∧
    ∀ expr : Expr, expr.Expressible →
      (∀ text, Spells expr.infixTokens text → ∀ limits : Limits, expr.depth ≤ limits.maxDepth →
        2 * expr.depth ≤ limits.maxNesting → parseSource limits text = .ok expr) ∧
      (∀ text, Spells expr.infixTokens text → expr.depth ≤ ({} : Limits).maxDepth →
        2 * expr.depth ≤ ({} : Limits).maxNesting →
          (parseSource {} text).map Expr.encode = .ok expr.encode) ∧
      ∀ words nesting, Derives .conditional words nesting expr →
        expr.infixTokens.count .openParen ≤ words.count .openParen := by
  have expresses (expr : Expr) (expressible : expr.Expressible) (text : List Char)
      (spells : Spells expr.infixTokens text) (limits : Limits)
      (shallow : expr.depth ≤ limits.maxDepth) (room : 2 * expr.depth ≤ limits.maxNesting) :
      parseSource limits text = .ok expr := by
    obtain ⟨nesting, fits, derives⟩ := expr.exists_derives_infixTokens expressible.1
    have whole := Expr.derives_of_admits expr.admits_conditional derives
    obtain ⟨tokens, scanned, same⟩ := exists_tokenize_of_spells whole expressible.2 spells
    have within : nesting ≤ limits.maxNesting := by omega
    exact parseSource_eq_ok_iff.mpr
      ⟨tokens, scanned, Parse.parse_of_derives (same ▸ whole) within shallow⟩
  refine ⟨fun limits source expr parsed => ?_, fun expr expressible => ⟨?_, ?_, ?_⟩⟩
  · obtain ⟨tokens, scanned, parsed⟩ := parseSource_eq_ok_iff.mp parsed
    obtain ⟨nesting, derives, _⟩ := Parse.exists_derives_of_parse parsed
    refine ⟨Expr.not_mem_unaryOperators_of_derives derives, fun digits member => ?_⟩
    exact Number.isLiteral_iff.mpr (literalForm_of_parse scanned parsed digits member)
  · exact expresses expr expressible
  · intro text spells shallow room
    rw [expresses expr expressible text spells {} shallow room]
    rfl
  · intro words nesting derives
    have fewest := Expr.count_placed_le derives
    rwa [Expr.place_of_admits expr.admits_conditional] at fewest

/-- A power whose base is a power needs parentheses around it, and so does a difference that is
subtracted. The signs need none. -/
theorem parseSource_expresses_of_powers :
    let power := Expr.binary .power (.binary .power (.literal ['3']) (.literal ['4']))
      (.unary .minus (.literal ['5', '.', '5']))
    let expr := Expr.binary .subtract (.literal ['1'])
      (.binary .subtract (.unary .minus (.literal ['2'])) power)
    let text := "1-(-2-(3**4)**-5.5)".toList
    expr.Expressible ∧ Spells expr.infixTokens text ∧ expr.depth = 5 ∧
      parseSource ⟨10, 5⟩ text = .ok expr ∧
      (parseSource {} text).map Expr.encode = .ok expr.encode ∧
      ∀ words nesting, Derives .conditional words nesting expr → 2 ≤ words.count .openParen := by
  intro power expr text
  have expressible : expr.Expressible := ⟨by decide, by decide⟩
  have spells : Spells expr.infixTokens text := by
    have spelled : expr.infixTokens.flatMap Token.text = text := by decide +kernel
    exact spelled ▸ spells_flatMap expr.infixTokens
  obtain ⟨parses, encodes, fewest⟩ := parseSource_expresses.2 expr expressible
  exact ⟨expressible, spells, rfl, parses text spells ⟨10, 5⟩ (by decide) (by decide),
    encodes text spells (by decide) (by decide), fewest⟩

end Calculator
