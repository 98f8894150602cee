import Calculator.Expr.Parse
import Calculator.Proofs.Outcome

/-!
# What each level reads

A level reads a tree from the start of the tokens, and leaves the rest, when the
parser does so there without an error (`Reads`). For each level there is one
statement of all the ways in which it can read a tree, limits included. The
statements about the parser that hold of its successes follow from these, and do
not look into its definition again. A statement about failures too is shown for
each level from the levels that it calls, and then holds of all (`induct_levels`).
-/

set_option autoImplicit false

namespace Calculator.Parse

variable {limits : Limits} {nesting rank : Nat} {tokens rest : List Located} {read : Measured}

/-- A level reads a tree from the start of the tokens and leaves the rest. -/
def Reads (limits : Limits) (stratum : Stratum) (nesting : Nat) (tokens : List Located)
    (read : Measured) (rest : List Located) : Prop :=
  ∃ shorter, (treeAt limits stratum nesting tokens).outcome = .ok ⟨read, rest, shorter⟩

/-- A chain of operators of rank `rank + 1` whose part to the left has been read continues to a
tree, of which the rest is left. -/
def Continues (limits : Limits) (rank nesting : Nat) (tokens : List Located) (left : Measured)
    (middle : List Located) (read : Measured) (rest : List Located) : Prop :=
  ∃ shorter shorter', (@continueFrom limits rank nesting tokens ⟨left, middle, shorter⟩).outcome =
    .ok ⟨read, rest, shorter'⟩

theorem Reads.shorter {stratum : Stratum} (reads : Reads limits stratum nesting tokens read rest) :
    rest.length < tokens.length :=
  reads.1

/-- **What holds of a level whenever it holds of the levels that it calls holds of every level.** A
level calls the next tighter one on the same tokens, and itself or a looser one on fewer tokens. -/
theorem induct_levels {motive : Stratum → Nat → List Located → Prop}
    (primary : ∀ nesting tokens,
      (∀ inside : List Located, inside.length < tokens.length →
        motive .conditional (nesting + 1) inside) → motive .primary nesting tokens)
    (signed : ∀ nesting tokens, motive .primary nesting tokens →
      (∀ others : List Located, others.length < tokens.length →
        motive .signed (nesting + 1) others) → motive .signed nesting tokens)
    (power : ∀ nesting tokens, motive .signed nesting tokens →
      (∀ others : List Located, others.length < tokens.length →
        motive (.infixed 0) (nesting + 1) others) → motive (.infixed 0) nesting tokens)
    (chain : ∀ rank nesting tokens, motive (.infixed rank) nesting tokens →
      (∀ others : List Located, others.length < tokens.length →
        motive (.infixed rank) nesting others) → motive (.infixed (rank + 1)) nesting tokens)
    (conditional : ∀ nesting tokens, motive (.infixed BinaryOperator.loosestRank) nesting tokens →
      (∀ others : List Located, others.length < tokens.length →
        motive .conditional (nesting + 1) others) → motive .conditional nesting tokens)
    (stratum : Stratum) (nesting : Nat) (tokens : List Located) :
    motive stratum nesting tokens := by
  have fewer (stratum : Stratum) (nesting : Nat) (others : List Located)
      (shorter : others.length < tokens.length) : motive stratum nesting others :=
    induct_levels primary signed power chain conditional stratum nesting others
  match stratum with
  | .primary => exact primary nesting tokens (fewer .conditional (nesting + 1))
  | .signed =>
      exact signed nesting tokens
        (induct_levels primary signed power chain conditional .primary nesting tokens)
        (fewer .signed (nesting + 1))
  | .infixed 0 =>
      exact power nesting tokens
        (induct_levels primary signed power chain conditional .signed nesting tokens)
        (fewer (.infixed 0) (nesting + 1))
  | .infixed (rank + 1) =>
      exact chain rank nesting tokens
        (induct_levels primary signed power chain conditional (.infixed rank) nesting tokens)
        (fewer (.infixed rank) nesting)
  | .conditional =>
      exact conditional nesting tokens
        (induct_levels primary signed power chain conditional
          (.infixed BinaryOperator.loosestRank) nesting tokens)
        (fewer .conditional (nesting + 1))
termination_by (tokens.length, height stratum)
decreasing_by
  all_goals
    simp only [Prod.lex_def, height, BinaryOperator.loosestRank, true_and]
    omega

/-! ## Limits -/

theorem deeper_eq_ok_iff {inside : Nat} :
    (deeper limits nesting).outcome = .ok inside ↔
      nesting < limits.maxNesting ∧ inside = nesting + 1 := by
  unfold deeper
  split
  · rw [Traced.outcome_fail]
    constructor
    · intro impossible
      cases impossible
    · omega
  · rw [Traced.outcome_pure, Except.ok.injEq]
    omega

theorem fold_eq_ok_iff {tree : Expr} {depth : Nat} :
    (fold limits tree depth).outcome = .ok read ↔
      depth ≤ limits.maxDepth ∧ read = ⟨tree, depth⟩ := by
  unfold fold
  split
  · rw [Traced.outcome_fail]
    constructor
    · intro impossible
      cases impossible
    · omega
  · rw [Traced.outcome_bind_of_eq_ok (Traced.outcome_log _), Traced.outcome_pure, Except.ok.injEq,
      eq_comm (a := read)]
    exact (and_iff_right (by omega)).symm

/-! ## Levels -/

/-- A primary is a number, or a group. -/
theorem reads_primary_iff :
    Reads limits .primary nesting tokens read rest ↔
      (∃ digits position, tokens = ⟨.number digits, position⟩ :: rest ∧ 1 ≤ limits.maxDepth ∧
        read = ⟨.literal digits, 1⟩) ∨
      ∃ opened closed inside, tokens = ⟨.openParen, opened⟩ :: inside ∧
        nesting < limits.maxNesting ∧
        Reads limits .conditional (nesting + 1) inside read (⟨.closeParen, closed⟩ :: rest) := by
  constructor
  · rintro ⟨shorter, found⟩
    match tokens with
    | [] =>
        rw [treeAt] at found
        cases found
    | ⟨.number digits, position⟩ :: others =>
        rw [treeAt, Traced.outcome_bind_eq_ok_iff] at found
        obtain ⟨literal, folded, same⟩ := found
        cases same
        obtain ⟨room, rfl⟩ := fold_eq_ok_iff.mp folded
        exact .inl ⟨digits, position, rfl, room, rfl⟩
    | ⟨.openParen, opened⟩ :: inside =>
        rw [treeAt, Traced.outcome_bind_eq_ok_iff] at found
        obtain ⟨deep, entered, found⟩ := found
        obtain ⟨room, rfl⟩ := deeper_eq_ok_iff.mp entered
        obtain ⟨parsed, inner, found⟩ := Traced.outcome_bind_eq_ok_iff.mp found
        split at found
        · cases found
          exact .inr ⟨opened, _, inside, rfl, room, _, inner⟩
        · cases found
    | ⟨.operator op, position⟩ :: others | ⟨.question, position⟩ :: others
    | ⟨.colon, position⟩ :: others | ⟨.closeParen, position⟩ :: others =>
        rw [treeAt] at found
        · cases found
        all_goals simp
  · rintro (⟨digits, position, rfl, room, rfl⟩ | ⟨opened, closed, inside, rfl, room, reads⟩)
    · refine ⟨by simp, ?_⟩
      rw [treeAt, Traced.outcome_bind_eq_ok_iff]
      exact ⟨_, fold_eq_ok_iff.mpr ⟨room, rfl⟩, rfl⟩
    · have shorter := reads.shorter
      obtain ⟨_, reads⟩ := reads
      simp only [List.length_cons] at shorter
      refine ⟨by simp only [List.length_cons]; omega, ?_⟩
      rw [treeAt, Traced.outcome_bind_eq_ok_iff]
      refine ⟨_, deeper_eq_ok_iff.mpr ⟨room, rfl⟩, ?_⟩
      rw [Traced.outcome_bind_of_eq_ok reads]
      rfl

/-- A signed operand is a sign with its operand, or a primary where no sign stands. -/
theorem reads_signed_iff :
    Reads limits .signed nesting tokens read rest ↔
      (∃ token position others op operand, tokens = ⟨token, position⟩ :: others ∧
        sign? token = some op ∧ nesting < limits.maxNesting ∧
        Reads limits .signed (nesting + 1) others operand rest ∧
        operand.depth + 1 ≤ limits.maxDepth ∧
        read = ⟨.unary op operand.tree, operand.depth + 1⟩) ∨
      (∀ next ∈ tokens.head?, sign? next.token = none) ∧
        Reads limits .primary nesting tokens read rest := by
  constructor
  · rintro ⟨shorter, found⟩
    cases tokens with
    | nil =>
        rw [treeAt] at found
        exact .inr ⟨by simp, shorter, found⟩
    | cons next others =>
        obtain ⟨token, position⟩ := next
        rw [treeAt] at found
        split at found
        · rename_i op isSign
          obtain ⟨deep, entered, found⟩ := Traced.outcome_bind_eq_ok_iff.mp found
          obtain ⟨room, rfl⟩ := deeper_eq_ok_iff.mp entered
          obtain ⟨⟨operand, after, shorter⟩, reads, found⟩ := Traced.outcome_bind_eq_ok_iff.mp found
          obtain ⟨tree, folded, same⟩ := Traced.outcome_bind_eq_ok_iff.mp found
          cases same
          obtain ⟨shallow, rfl⟩ := fold_eq_ok_iff.mp folded
          exact .inl ⟨token, position, others, op, operand, rfl, isSign, room, ⟨shorter, reads⟩,
            shallow, rfl⟩
        · rename_i noSign
          exact .inr ⟨by simpa using noSign, shorter, found⟩
  · rintro (⟨token, position, others, op, operand, rfl, isSign, room, ⟨shorter, reads⟩, shallow,
      rfl⟩ | ⟨noSign, shorter, found⟩)
    · refine ⟨by simp only [List.length_cons]; omega, ?_⟩
      rw [treeAt, isSign]
      refine Traced.outcome_bind_eq_ok_iff.mpr ⟨_, deeper_eq_ok_iff.mpr ⟨room, rfl⟩, ?_⟩
      rw [Traced.outcome_bind_of_eq_ok reads, Traced.outcome_bind_eq_ok_iff]
      exact ⟨_, fold_eq_ok_iff.mpr ⟨shallow, rfl⟩, rfl⟩
    · refine ⟨shorter, ?_⟩
      cases tokens with
      | nil =>
          rw [treeAt]
          exact found
      | cons next others =>
          obtain ⟨token, position⟩ := next
          have noSign : sign? token = none := by simpa using noSign
          rw [treeAt, noSign]
          exact found

/-- The tightest operator takes everything of its own level to the right. -/
theorem reads_infixed_zero_iff :
    Reads limits (.infixed 0) nesting tokens read rest ↔
      ∃ base middle, Reads limits .signed nesting tokens base middle ∧
        ((∃ position others exponent, middle = ⟨.operator .power, position⟩ :: others ∧
            nesting < limits.maxNesting ∧
            Reads limits (.infixed 0) (nesting + 1) others exponent rest ∧
            max base.depth exponent.depth + 1 ≤ limits.maxDepth ∧
            read = ⟨.binary .power base.tree exponent.tree,
              max base.depth exponent.depth + 1⟩) ∨
          (∀ next ∈ middle.head?, next.token ≠ .operator .power) ∧ read = base ∧
            rest = middle) := by
  constructor
  · rintro ⟨shorter, found⟩
    rw [treeAt] at found
    obtain ⟨parsed, derivesBase, found⟩ := Traced.outcome_bind_eq_ok_iff.mp found
    split at found
    · obtain ⟨deep, entered, found⟩ := Traced.outcome_bind_eq_ok_iff.mp found
      obtain ⟨room, rfl⟩ := deeper_eq_ok_iff.mp entered
      obtain ⟨exponent, readsExponent, found⟩ := Traced.outcome_bind_eq_ok_iff.mp found
      obtain ⟨tree, folded, same⟩ := Traced.outcome_bind_eq_ok_iff.mp found
      cases same
      obtain ⟨shallow, rfl⟩ := fold_eq_ok_iff.mp folded
      exact ⟨_, _, ⟨_, derivesBase⟩, .inl ⟨_, _, exponent.read, rfl, room, ⟨_, readsExponent⟩,
        shallow, rfl⟩⟩
    · rename_i alone
      cases found
      refine ⟨_, _, ⟨_, derivesBase⟩, .inr ⟨?_, rfl, rfl⟩⟩
      rintro ⟨token, position⟩ next rfl
      obtain ⟨others, rfl⟩ := List.head?_eq_some_iff.mp next
      exact alone _ _ _ _ rfl
  · rintro ⟨base, middle, ⟨shorterBase, readsBase⟩, found⟩
    rcases found with ⟨position, others, exponent, rfl, room, readsExponent, shallow, rfl⟩ |
      ⟨stops, rfl, rfl⟩
    · have shorter := readsExponent.shorter
      obtain ⟨_, readsExponent⟩ := readsExponent
      have shorterBase' := shorterBase
      rw [List.length_cons] at shorterBase'
      refine ⟨by omega, ?_⟩
      rw [treeAt, Traced.outcome_bind_of_eq_ok readsBase]
      refine Traced.outcome_bind_eq_ok_iff.mpr ⟨_, deeper_eq_ok_iff.mpr ⟨room, rfl⟩, ?_⟩
      rw [Traced.outcome_bind_of_eq_ok readsExponent, Traced.outcome_bind_eq_ok_iff]
      exact ⟨_, fold_eq_ok_iff.mpr ⟨shallow, rfl⟩, rfl⟩
    · refine ⟨shorterBase, ?_⟩
      rw [treeAt, Traced.outcome_bind_of_eq_ok readsBase]
      split
      · rename_i same
        cases same
        exact absurd rfl (stops _ rfl)
      · rfl

/-- A level of operators that group to the left reads a first operand and continues from it. -/
theorem reads_infixed_succ_iff :
    Reads limits (.infixed (rank + 1)) nesting tokens read rest ↔
      ∃ left middle, Reads limits (.infixed rank) nesting tokens left middle ∧
        Continues limits rank nesting tokens left middle read rest := by
  constructor
  · rintro ⟨shorter, found⟩
    rw [treeAt] at found
    obtain ⟨parsed, reads, found⟩ := Traced.outcome_bind_eq_ok_iff.mp found
    exact ⟨_, _, ⟨_, reads⟩, _, shorter, found⟩
  · rintro ⟨left, middle, ⟨_, reads⟩, _, shorter, found⟩
    refine ⟨shorter, ?_⟩
    rw [treeAt, Traced.outcome_bind_of_eq_ok reads]
    exact found

/-- A chain continues with an operator of its rank and an operand one level tighter, or it ends
where no such operator follows. -/
theorem continues_iff {left : Measured} {middle : List Located}
    (shorter : middle.length < tokens.length) :
    Continues limits rank nesting tokens left middle read rest ↔
      (∃ op position others right later, middle = ⟨.operator op, position⟩ :: others ∧
        op.rank = rank + 1 ∧ Reads limits (.infixed rank) nesting others right later ∧
        max left.depth right.depth + 1 ≤ limits.maxDepth ∧
        Continues limits rank nesting tokens
          ⟨.binary op left.tree right.tree, max left.depth right.depth + 1⟩ later read rest) ∨
      (∀ next ∈ middle.head?, ∀ op, next.token = .operator op → op.rank ≠ rank + 1) ∧
        read = left ∧ rest = middle := by
  constructor
  · rintro ⟨_, shorterRest, found⟩
    rw [continueFrom.eq_def] at found
    split at found
    · rename_i op position others shorterOthers same
      cases same
      split at found
      · rename_i ranked
        obtain ⟨right, readsRight, found⟩ := Traced.outcome_bind_eq_ok_iff.mp found
        obtain ⟨tree, folded, found⟩ := Traced.outcome_bind_eq_ok_iff.mp found
        obtain ⟨shallow, rfl⟩ := fold_eq_ok_iff.mp folded
        exact .inl ⟨op, position, others, right.read, right.rest, rfl, ranked, ⟨_, readsRight⟩,
          shallow, _, shorterRest, found⟩
      · rename_i other
        cases found
        refine .inr ⟨?_, rfl, rfl⟩
        rintro _ ⟨⟩ _ ⟨⟩
        exact other
    · rename_i alone
      cases found
      refine .inr ⟨?_, rfl, rfl⟩
      rintro ⟨token, position⟩ next op rfl
      obtain ⟨others, rfl⟩ := List.head?_eq_some_iff.mp next
      exact absurd rfl (alone _ _ _ _ _)
  · rintro (⟨op, position, others, right, later, rfl, ranked, readsRight, shallow, found⟩ |
      ⟨stops, rfl, rfl⟩)
    · have shorterLater := readsRight.shorter
      obtain ⟨_, readsRight⟩ := readsRight
      obtain ⟨_, shorterRest, found⟩ := found
      refine ⟨shorter, shorterRest, ?_⟩
      rw [continueFrom, if_pos ranked, Traced.outcome_bind_of_eq_ok readsRight]
      refine (Traced.outcome_bind_of_eq_ok (fold_eq_ok_iff.mpr ⟨shallow, rfl⟩) _).trans ?_
      exact found
    · refine ⟨shorter, shorter, ?_⟩
      rw [continueFrom.eq_def]
      split
      · rename_i same
        cases same
        rw [if_neg (stops _ rfl _ rfl)]
        rfl
      · rfl

/-- A conditional reads a condition, and two branches where a question mark follows it. -/
theorem reads_conditional_iff :
    Reads limits .conditional nesting tokens read rest ↔
      ∃ condition middle,
        Reads limits (.infixed BinaryOperator.loosestRank) nesting tokens condition middle ∧
        ((∃ question colon chosen otherwise whenTrue whenFalse,
            middle = ⟨.question, question⟩ :: chosen ∧ nesting < limits.maxNesting ∧
            Reads limits .conditional (nesting + 1) chosen whenTrue
              (⟨.colon, colon⟩ :: otherwise) ∧
            Reads limits .conditional (nesting + 1) otherwise whenFalse rest ∧
            max (max condition.depth whenTrue.depth) whenFalse.depth + 1 ≤ limits.maxDepth ∧
            read = ⟨.conditional condition.tree whenTrue.tree whenFalse.tree,
              max (max condition.depth whenTrue.depth) whenFalse.depth + 1⟩) ∨
          (∀ next ∈ middle.head?, next.token ≠ .question) ∧ read = condition ∧
            rest = middle) := by
  constructor
  · rintro ⟨shorter, found⟩
    rw [treeAt] at found
    obtain ⟨parsed, readsCondition, found⟩ := Traced.outcome_bind_eq_ok_iff.mp found
    split at found
    · obtain ⟨deep, entered, found⟩ := Traced.outcome_bind_eq_ok_iff.mp found
      obtain ⟨room, rfl⟩ := deeper_eq_ok_iff.mp entered
      obtain ⟨parsedTrue, readsTrue, found⟩ := Traced.outcome_bind_eq_ok_iff.mp found
      split at found
      · obtain ⟨parsedFalse, readsFalse, found⟩ := Traced.outcome_bind_eq_ok_iff.mp found
        obtain ⟨tree, folded, same⟩ := Traced.outcome_bind_eq_ok_iff.mp found
        cases same
        obtain ⟨shallow, rfl⟩ := fold_eq_ok_iff.mp folded
        exact ⟨_, _, ⟨_, readsCondition⟩, .inl ⟨_, _, _, _, _, _, rfl, room, ⟨_, readsTrue⟩,
          ⟨_, readsFalse⟩, shallow, rfl⟩⟩
      · cases found
    · rename_i alone
      cases found
      refine ⟨_, _, ⟨_, readsCondition⟩, .inr ⟨?_, rfl, rfl⟩⟩
      rintro ⟨token, position⟩ next rfl
      obtain ⟨others, rfl⟩ := List.head?_eq_some_iff.mp next
      exact alone _ _ _ _ rfl
  · rintro ⟨condition, middle, ⟨shorterCondition, readsCondition⟩, found⟩
    rcases found with ⟨question, colon, chosen, otherwise, whenTrue, whenFalse, rfl, room,
      readsTrue, readsFalse, shallow, rfl⟩ | ⟨stops, rfl, rfl⟩
    · have shorterTrue := readsTrue.shorter
      have shorterFalse := readsFalse.shorter
      have shorterCondition' := shorterCondition
      rw [List.length_cons] at shorterTrue shorterCondition'
      obtain ⟨_, readsTrue⟩ := readsTrue
      obtain ⟨_, readsFalse⟩ := readsFalse
      refine ⟨by omega, ?_⟩
      rw [treeAt, Traced.outcome_bind_of_eq_ok readsCondition]
      refine Traced.outcome_bind_eq_ok_iff.mpr ⟨_, deeper_eq_ok_iff.mpr ⟨room, rfl⟩, ?_⟩
      rw [Traced.outcome_bind_of_eq_ok readsTrue]
      refine (Traced.outcome_bind_of_eq_ok readsFalse _).trans ?_
      exact Traced.outcome_bind_eq_ok_iff.mpr ⟨_, fold_eq_ok_iff.mpr ⟨shallow, rfl⟩, rfl⟩
    · refine ⟨shorterCondition, ?_⟩
      rw [treeAt, Traced.outcome_bind_of_eq_ok readsCondition]
      split
      · rename_i same
        cases same
        exact absurd rfl (stops _ rfl)
      · rfl

end Calculator.Parse
