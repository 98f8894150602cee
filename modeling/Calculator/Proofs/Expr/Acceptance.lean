import Calculator.Proofs.Expr.Derivations
import Calculator.Proofs.Expr.Levels

/-!
# The parser accepts the grammar

A sequence of tokens parses to an expression exactly when the grammar derives it as
that expression, as long as the limits do not bind (`parse_accepts_grammar`).

**Soundness.** The tokens that a level has read derive the tree that it returns,
within the limits (`justified_of_reads`). This is an induction on the tokens and,
for the same tokens, on the level.

**Completeness.** A level reads what it derives, wherever the token that follows
would not make it read on (`complete_of_derives`, `Complete.reads`). This is an
induction on the derivation. A chain of operators that group to the left is the
exception: while it is built from the left, the token that follows its part so far
is an operator of its own. There the parser reaches the part so far and continues
from it (`Reaches`).
-/

set_option autoImplicit false

namespace Calculator

namespace Parse

variable {limits : Limits} {stratum : Stratum} {nesting rank : Nat} {tokens rest : List Located}
  {read : Measured}

/-! ## Soundness -/

/-- The tokens in front of the rest derive the tree that was read, and the limits allow their
nesting and its depth. -/
def Justified (limits : Limits) (stratum : Stratum) (nesting : Nat) (tokens : List Located)
    (read : Measured) (rest : List Located) : Prop :=
  ∃ used inner, tokens = used ++ rest ∧ Derives stratum (used.map Located.token) inner read.tree ∧
    inner ≤ limits.maxNesting - nesting ∧ read.depth = read.tree.depth ∧
    read.depth ≤ limits.maxDepth

/-- What is justified at one level is justified at a level that derives it too. -/
theorem Justified.of_tighter {looser : Stratum}
    (justified : Justified limits stratum nesting tokens read rest)
    (rule : ∀ {words inner tree}, Derives stratum words inner tree →
      Derives looser words inner tree) :
    Justified limits looser nesting tokens read rest := by
  obtain ⟨used, inner, split, derives, bounds⟩ := justified
  exact ⟨used, inner, split, rule derives, bounds⟩

/-- One more operator and its right operand are justified after what stands to their left. -/
theorem Justified.binary {op : BinaryOperator} {position : Nat} {left right : Measured}
    {others : List Located} (ranked : op.rank = rank + 1)
    (before : Justified limits (.infixed (rank + 1)) nesting tokens left
      (⟨.operator op, position⟩ :: others))
    (after : Justified limits (.infixed rank) nesting others right rest)
    (shallow : max left.depth right.depth + 1 ≤ limits.maxDepth) :
    Justified limits (.infixed (rank + 1)) nesting tokens
      ⟨.binary op left.tree right.tree, max left.depth right.depth + 1⟩ rest := by
  obtain ⟨used, inner, rfl, derivesFirst, room, depth, _⟩ := before
  obtain ⟨used', inner', rfl, derivesSecond, room', depth', _⟩ := after
  refine ⟨used ++ ⟨.operator op, position⟩ :: used', max inner inner', by simp, ?_,
    Nat.max_le.mpr ⟨room, room'⟩, by simp only [Expr.depth, depth, depth'], shallow⟩
  simpa using derivesFirst.binary ranked derivesSecond

/-- A sign derives with its operand. -/
theorem derives_of_sign? {token : Token} {op : UnaryOperator} {words : List Token} {inner : Nat}
    {tree : Expr} (isSign : sign? token = some op) (operand : Derives .signed words inner tree) :
    Derives .signed (token :: words) (inner + 1) (.unary op tree) := by
  unfold sign? at isSign
  split at isSign
  · cases isSign
    exact .plus operand
  · cases isSign
    exact .minus operand
  · cases isSign

/-- Continuing a chain is justified when its part so far is, and its operands are. -/
theorem justified_of_continues {left : Measured} {middle : List Located}
    (operands : ∀ others right later, others.length < tokens.length →
      Reads limits (.infixed rank) nesting others right later →
        Justified limits (.infixed rank) nesting others right later)
    (continues : Continues limits rank nesting tokens left middle read rest)
    (before : Justified limits (.infixed (rank + 1)) nesting tokens left middle) :
    Justified limits (.infixed (rank + 1)) nesting tokens read rest := by
  have shorter := continues.1
  induction length : middle.length using Nat.strongRecOn generalizing left middle with
  | ind size ih =>
      rcases (continues_iff shorter).mp continues with
        ⟨op, position, others, right, later, rfl, ranked, readsRight, shallow, continues⟩ |
          ⟨_, rfl, rfl⟩
      · have shorterLater := readsRight.shorter
        simp only [List.length_cons] at shorter length
        exact ih _ (by omega) continues
          (before.binary ranked (operands _ _ _ (by omega) readsRight) shallow) continues.1 rfl
      · exact before

/-- **Soundness of the levels.** -/
theorem justified_of_reads {stratum : Stratum} {nesting : Nat} {tokens rest : List Located}
    {read : Measured} (reads : Reads limits stratum nesting tokens read rest) :
    Justified limits stratum nesting tokens read rest := by
  match stratum with
  | .primary =>
      rcases reads_primary_iff.mp reads with ⟨digits, position, rfl, shallow, rfl⟩ |
        ⟨opened, closed, inside, rfl, room, readsInside⟩
      · exact ⟨[⟨.number digits, position⟩], 0, rfl, .number digits, Nat.zero_le _, rfl, shallow⟩
      · obtain ⟨used, inner, rfl, derives, fits, depth, shallow⟩ := justified_of_reads readsInside
        refine ⟨⟨.openParen, opened⟩ :: (used ++ [⟨.closeParen, closed⟩]), inner + 1, by simp, ?_,
          by omega, depth, shallow⟩
        simpa using derives.group
  | .signed =>
      rcases reads_signed_iff.mp reads with
        ⟨token, position, others, op, operand, rfl, isSign, room, readsOperand, shallow, rfl⟩ |
          ⟨_, readsPrimary⟩
      · obtain ⟨used, inner, rfl, derives, fits, depth, _⟩ := justified_of_reads readsOperand
        exact ⟨⟨token, position⟩ :: used, inner + 1, rfl, derives_of_sign? isSign derives, by omega,
          by simp only [Expr.depth, depth], shallow⟩
      · exact (justified_of_reads readsPrimary).of_tighter .unsigned
  | .infixed 0 =>
      obtain ⟨base, middle, readsBase, found⟩ := reads_infixed_zero_iff.mp reads
      have shorterBase := readsBase.shorter
      rcases found with ⟨position, others, exponent, rfl, room, readsExponent, shallow, rfl⟩ |
        ⟨_, rfl, rfl⟩
      · obtain ⟨used, outer, split, derivesBase, fits, depth, _⟩ := justified_of_reads readsBase
        simp only [List.length_cons] at shorterBase
        obtain ⟨used', inner, rfl, derivesExponent, fits', depth', _⟩ :=
          justified_of_reads readsExponent
        refine ⟨used ++ ⟨.operator .power, position⟩ :: used', max outer (inner + 1),
          by simp [split], ?_, by omega, by simp only [Expr.depth, depth, depth'], shallow⟩
        simpa using derivesBase.power derivesExponent
      · exact (justified_of_reads readsBase).of_tighter .base
  | .infixed (rank + 1) =>
      obtain ⟨left, middle, readsLeft, continues⟩ := reads_infixed_succ_iff.mp reads
      refine justified_of_continues ?_ continues
        ((justified_of_reads readsLeft).of_tighter .tighter)
      intro others right later shorter readsRight
      exact justified_of_reads readsRight
  | .conditional =>
      obtain ⟨condition, middle, readsCondition, found⟩ := reads_conditional_iff.mp reads
      have shorterCondition := readsCondition.shorter
      rcases found with ⟨question, colon, chosen, otherwise, whenTrue, whenFalse, rfl, room,
        readsTrue, readsFalse, shallow, rfl⟩ | ⟨_, rfl, rfl⟩
      · have shorterTrue := readsTrue.shorter
        simp only [List.length_cons] at shorterCondition shorterTrue
        obtain ⟨asked, outer, split, derivesCondition, fits, depth, _⟩ :=
          justified_of_reads readsCondition
        obtain ⟨used, first, split', derivesTrue, fits', depth', _⟩ := justified_of_reads readsTrue
        obtain ⟨used', second, rfl, derivesFalse, fits'', depth'', _⟩ :=
          justified_of_reads readsFalse
        refine ⟨asked ++ ⟨.question, question⟩ :: (used ++ ⟨.colon, colon⟩ :: used'),
          max outer (max first second + 1), by simp [split, split'], ?_, by omega,
          by simp only [Expr.depth, depth, depth', depth''], shallow⟩
        simpa using derivesCondition.conditional derivesTrue derivesFalse
      · exact (justified_of_reads readsCondition).of_tighter .unconditional
termination_by (tokens.length, height stratum)
decreasing_by
  all_goals
    subst_vars
    simp only [Prod.lex_def, List.length_cons, height, BinaryOperator.loosestRank, true_and] at *
    omega

/-! ## Completeness -/

/-- The token makes a level read on after a tree that it could return. -/
def readsOn : Stratum → Token → Bool
  | .infixed rank, .operator op => decide (op.rank ≤ rank)
  | .conditional, .operator _ => true
  | .conditional, .question => true
  | _, _ => false

/-- The token that follows, if there is one, ends a tree of the level. -/
def Ends (stratum : Stratum) (rest : List Located) : Prop :=
  ∀ next ∈ rest.head?, readsOn stratum next.token = false

/-- The level whose trees a level starts with: for a chain, the level of its operands. -/
def opening : Stratum → Stratum
  | .infixed (rank + 1) => .infixed rank
  | stratum => stratum

/-- A level gets as far as a tree with the rest still to come: it returns the tree, or, if it reads
a chain, it continues from the tree. -/
def Reaches (limits : Limits) : Stratum → Nat → List Located → Measured → List Located → Prop
  | .infixed (rank + 1), nesting, tokens, left, middle => ∀ read rest,
      Continues limits rank nesting tokens left middle read rest →
        Reads limits (.infixed (rank + 1)) nesting tokens read rest
  | stratum, nesting, tokens, read, rest => Reads limits stratum nesting tokens read rest

theorem ends_of_readsOn_eq_false {next : Located} (ends : readsOn stratum next.token = false)
    (others : List Located) : Ends stratum (next :: others) := by
  rintro _ ⟨⟩
  exact ends

/-- What ends a tree of a level ends a tree that the level starts with. -/
theorem Ends.opening (ends : Ends stratum rest) : Ends (opening stratum) rest := by
  intro next member
  have stops := ends next member
  match stratum, stops with
  | .infixed (rank + 1), stops =>
      cases token : next.token with
      | operator op =>
          simp only [token, readsOn, Parse.opening, decide_eq_false_iff_not] at stops ⊢
          omega
      | _ => rfl
  | .infixed 0, stops | .conditional, stops | .signed, stops | .primary, stops => exact stops

theorem Ends.of_conditional (ends : Ends .conditional rest) :
    Ends (.infixed BinaryOperator.loosestRank) rest := by
  intro next member
  have stops := ends next member
  cases token : next.token with
  | operator op => simp [token, readsOn] at stops
  | _ => rfl

/-- A level that reaches a tree returns it where nothing makes it read on. -/
theorem reads_of_reaches (reaches : Reaches limits stratum nesting tokens read rest)
    (shorter : rest.length < tokens.length) (ends : Ends stratum rest) :
    Reads limits stratum nesting tokens read rest := by
  match stratum, reaches with
  | .infixed (rank + 1), reaches =>
      refine reaches _ _ ((continues_iff shorter).mpr (.inr ⟨?_, rfl, rfl⟩))
      intro next member op same ranked
      have stops := ends next member
      simp only [same, readsOn, ranked, decide_eq_false_iff_not] at stops
      omega
  | .infixed 0, reads | .conditional, reads | .signed, reads | .primary, reads => exact reads

/-- A level reaches every tree that it derives, within the limits. -/
def Complete (limits : Limits) (stratum : Stratum) (words : List Token) (inner : Nat)
    (tree : Expr) : Prop :=
  ∀ used rest nesting, used.map Located.token = words → inner ≤ limits.maxNesting - nesting →
    tree.depth ≤ limits.maxDepth → Ends (opening stratum) rest →
      Reaches limits stratum nesting (used ++ rest) ⟨tree, tree.depth⟩ rest

/-- What a complete level derives it reads, where the token that follows ends the tree. -/
theorem Complete.reads {words : List Token} {inner : Nat} {tree : Expr} {used : List Located}
    (complete : Complete limits stratum words inner tree)
    (derives : Derives stratum words inner tree) (same : used.map Located.token = words)
    (fits : inner ≤ limits.maxNesting - nesting) (shallow : tree.depth ≤ limits.maxDepth)
    (ends : Ends stratum rest) :
    Reads limits stratum nesting (used ++ rest) ⟨tree, tree.depth⟩ rest := by
  have nonempty := derives.nesting_lt_and_depth_le_length.1
  rw [← same, List.length_map] at nonempty
  refine reads_of_reaches (complete used rest nesting same fits shallow ends.opening) ?_ ends
  rw [List.length_append]
  omega

/-- Located tokens are cut where their tokens are. -/
theorem exists_cut {used : List Located} {front back : List Token} {token : Token}
    (same : used.map Located.token = front ++ token :: back) :
    ∃ before position after, used = before ++ ⟨token, position⟩ :: after ∧
      before.map Located.token = front ∧ after.map Located.token = back := by
  obtain ⟨before, others, rfl, sameFront, same⟩ := List.map_eq_append_iff.mp same
  obtain ⟨⟨_, position⟩, after, rfl, rfl, sameBack⟩ := List.map_eq_cons_iff.mp same
  exact ⟨before, position, after, rfl, sameFront, sameBack⟩

/-- The same where the cut is in front of the first token. -/
theorem exists_first {used : List Located} {back : List Token} {token : Token}
    (same : used.map Located.token = token :: back) :
    ∃ position after, used = ⟨token, position⟩ :: after ∧ after.map Located.token = back := by
  obtain ⟨⟨_, position⟩, after, rfl, rfl, sameBack⟩ := List.map_eq_cons_iff.mp same
  exact ⟨position, after, rfl, sameBack⟩

/-- A primary does not start with a sign. -/
theorem exists_first_of_derives_primary {words : List Token} {inner : Nat} {tree : Expr}
    (derives : Derives .primary words inner tree) :
    ∃ token back, words = token :: back ∧ sign? token = none := by
  cases derives with
  | number digits => exact ⟨_, _, rfl, rfl⟩
  | group inside => exact ⟨_, _, rfl, rfl⟩

/-- A sign is complete when its operand is. -/
theorem Complete.sign {token : Token} {op : UnaryOperator} {words : List Token} {inner : Nat}
    {tree : Expr} (isSign : sign? token = some op) (operand : Derives .signed words inner tree)
    (complete : Complete limits .signed words inner tree) :
    Complete limits .signed (token :: words) (inner + 1) (.unary op tree) := by
  intro used rest nesting same fits shallow ends
  obtain ⟨position, after, rfl, sameOperand⟩ := exists_first same
  simp only [Expr.depth] at shallow
  exact reads_signed_iff.mpr (.inl ⟨token, position, after ++ rest, op, _, rfl, isSign, by omega,
    complete.reads operand sameOperand (by omega) (by omega) fun _ _ => rfl, shallow, rfl⟩)

/-- **Completeness of the levels.** -/
theorem complete_of_derives {words : List Token} {inner : Nat} {tree : Expr}
    (derives : Derives stratum words inner tree) : Complete limits stratum words inner tree := by
  induction derives with
  | number digits =>
      intro used rest nesting same fits shallow ends
      obtain ⟨position, after, rfl, none⟩ := exists_first same
      rw [List.map_eq_nil_iff.mp none]
      exact reads_primary_iff.mpr (.inl ⟨digits, position, rfl, shallow, rfl⟩)
  | group inside ih =>
      intro used rest nesting same fits shallow ends
      obtain ⟨opened, others, rfl, sameOthers⟩ := exists_first same
      obtain ⟨within, closed, after, rfl, sameInside, none⟩ := exists_cut sameOthers
      rw [List.map_eq_nil_iff.mp none]
      refine reads_primary_iff.mpr (.inr ⟨opened, closed, within ++ ⟨.closeParen, closed⟩ :: rest,
        by simp, by omega, ?_⟩)
      exact ih.reads inside sameInside (by omega) shallow (ends_of_readsOn_eq_false rfl rest)
  | unsigned alone ih =>
      intro used rest nesting same fits shallow ends
      have reads : Reads limits .primary nesting (used ++ rest) _ rest :=
        ih.reads alone same fits shallow fun _ _ => rfl
      obtain ⟨token, back, rfl, noSign⟩ := exists_first_of_derives_primary alone
      obtain ⟨position, after, rfl, _⟩ := exists_first same
      refine reads_signed_iff.mpr (.inr ⟨?_, reads⟩)
      rintro _ ⟨⟩
      exact noSign
  | plus operand ih => exact ih.sign rfl operand
  | minus operand ih => exact ih.sign rfl operand
  | base alone ih =>
      intro used rest nesting same fits shallow ends
      refine reads_infixed_zero_iff.mpr ⟨_, _, ih.reads alone same fits shallow fun _ _ => rfl,
        .inr ⟨?_, rfl, rfl⟩⟩
      intro next member power
      have stops := ends next member
      rw [power] at stops
      cases stops
  | power derivesBase derivesExponent ihBase ihExponent =>
      intro used rest nesting same fits shallow ends
      obtain ⟨front, position, after, rfl, sameBase, sameExponent⟩ := exists_cut same
      simp only [Expr.depth] at shallow
      rw [List.append_assoc]
      exact reads_infixed_zero_iff.mpr ⟨_, _, ihBase.reads derivesBase sameBase (by omega)
        (by omega) fun _ _ => rfl, .inl ⟨position, after ++ rest, _, rfl, by omega,
          ihExponent.reads derivesExponent sameExponent (by omega) (by omega) ends, shallow, rfl⟩⟩
  | tighter alone ih =>
      intro used rest nesting same fits shallow ends read rest' continues
      exact reads_infixed_succ_iff.mpr ⟨_, _, ih.reads alone same fits shallow ends, continues⟩
  | @binary op rank left right before after first second ranked derivesFirst derivesSecond ihFirst
      ihSecond =>
      -- The part so far is not returned here: this operator follows it. It is only reached, and
      -- what continues from the whole continues from the part by way of this operator.
      intro used rest nesting same fits shallow ends read rest' continues
      obtain ⟨front, position, back, rfl, sameFirst, sameSecond⟩ := exists_cut same
      have nonempty := derivesFirst.nesting_lt_and_depth_le_length.1
      rw [← sameFirst, List.length_map] at nonempty
      simp only [Expr.depth] at shallow continues
      rw [List.append_assoc] at continues ⊢
      have stops : readsOn (opening (.infixed (rank + 1))) (.operator op) = false := by
        simp [opening, readsOn, ranked]
      refine ihFirst front _ nesting sameFirst (by omega) (by omega)
        (ends_of_readsOn_eq_false stops _) _ _ ?_
      refine (continues_iff (by rw [List.length_append]; omega)).mpr (.inl ⟨op, position,
        back ++ rest, ⟨second, second.depth⟩, rest, rfl, ranked, ?_, shallow, continues⟩)
      exact ihSecond.reads derivesSecond sameSecond (by omega) (by omega) ends
  | unconditional alone ih =>
      intro used rest nesting same fits shallow ends
      refine reads_conditional_iff.mpr ⟨_, _, ih.reads alone same fits shallow ends.of_conditional,
        .inr ⟨?_, rfl, rfl⟩⟩
      intro next member question
      have stops := ends next member
      rw [question] at stops
      cases stops
  | conditional derivesCondition derivesTrue derivesFalse ihCondition ihTrue ihFalse =>
      intro used rest nesting same fits shallow ends
      obtain ⟨asked, question, others, rfl, sameCondition, branches⟩ := exists_cut same
      obtain ⟨chosen, colon, otherwise, rfl, sameTrue, sameFalse⟩ := exists_cut branches
      simp only [Expr.depth] at shallow
      simp only [List.append_assoc, List.cons_append]
      exact reads_conditional_iff.mpr ⟨_, _, ihCondition.reads derivesCondition sameCondition
        (by omega) (by omega) (ends_of_readsOn_eq_false rfl _), .inl ⟨question, colon, _,
          otherwise ++ rest, _, _, rfl, by omega,
          ihTrue.reads derivesTrue sameTrue (by omega) (by omega) (ends_of_readsOn_eq_false rfl _),
          ihFalse.reads derivesFalse sameFalse (by omega) (by omega) ends, shallow, rfl⟩⟩

/-! ## Whole sequences of tokens -/

/-- A sequence of tokens parses to what the loosest level reads of it, if that leaves nothing. -/
theorem outcome_parse_eq_ok_iff {expr : Expr} :
    (parse limits tokens).outcome = .ok expr ↔
      ∃ depth, Reads limits .conditional 0 tokens ⟨expr, depth⟩ [] := by
  unfold parse
  constructor
  · intro parsed
    obtain ⟨⟨read, rest, shorter⟩, reads, parsed⟩ := Traced.outcome_bind_eq_ok_iff.mp parsed
    cases rest with
    | nil =>
        obtain ⟨_, _, same⟩ := Traced.outcome_bind_eq_ok_iff.mp parsed
        cases same
        exact ⟨read.depth, shorter, reads⟩
    | cons next others => cases parsed
  · rintro ⟨depth, shorter, reads⟩
    rw [Traced.outcome_bind_of_eq_ok reads]
    rfl

/-- What is parsed is derived, and the limits allow it. -/
theorem exists_derives_of_parse {expr : Expr} (parsed : (parse limits tokens).outcome = .ok expr) :
    ∃ nesting, Derives .conditional (tokens.map Located.token) nesting expr ∧
      nesting ≤ limits.maxNesting ∧ expr.depth ≤ limits.maxDepth := by
  obtain ⟨depth, reads⟩ := outcome_parse_eq_ok_iff.mp parsed
  obtain ⟨used, nesting, rfl, derives, fits, same, shallow⟩ := justified_of_reads reads
  rw [List.append_nil]
  exact ⟨nesting, derives, fits, same ▸ shallow⟩

/-- What is derived is parsed, if the limits allow it. -/
theorem parse_of_derives {expr : Expr} {nesting : Nat}
    (derives : Derives .conditional (tokens.map Located.token) nesting expr)
    (fits : nesting ≤ limits.maxNesting) (shallow : expr.depth ≤ limits.maxDepth) :
    (parse limits tokens).outcome = .ok expr := by
  have reads : Reads limits .conditional 0 (tokens ++ []) ⟨expr, expr.depth⟩ [] :=
    (complete_of_derives derives).reads derives rfl fits shallow (by simp [Ends])
  rw [List.append_nil] at reads
  exact outcome_parse_eq_ok_iff.mpr ⟨_, reads⟩

end Parse

/-- The grammar is not ambiguous: a sequence of tokens derives at most one tree. -/
theorem derives_unique {words : List Token} {nesting nesting' : Nat} {expr expr' : Expr}
    (first : Derives .conditional words nesting expr)
    (second : Derives .conditional words nesting' expr') : expr = expr' := by
  obtain ⟨tokens, rfl⟩ : ∃ tokens : List Located, tokens.map Located.token = words :=
    ⟨words.map fun word => ⟨word, 0⟩, by simp [Function.comp_def]⟩
  let limits : Limits := ⟨max nesting nesting', max expr.depth expr'.depth⟩
  have parsed : (parse limits tokens).outcome = .ok expr :=
    Parse.parse_of_derives first (Nat.le_max_left ..) (Nat.le_max_left ..)
  have parsed' : (parse limits tokens).outcome = .ok expr' :=
    Parse.parse_of_derives second (Nat.le_max_right ..) (Nat.le_max_right ..)
  exact Except.ok.inj (parsed.symm.trans parsed')

/-- **The parser accepts exactly its grammar.** Under limits larger than the number of tokens, a
sequence of tokens parses to an expression if and only if the grammar derives it as that expression.
The grammar derives at most one expression. -/
theorem parse_accepts_grammar (limits : Limits) (tokens : List Located)
    (roomForNesting : tokens.length + 1 ≤ limits.maxNesting)
    (roomForDepth : tokens.length + 1 ≤ limits.maxDepth) :
    (∀ expr, (parse limits tokens).outcome = .ok expr ↔
      ∃ nesting, Derives .conditional (tokens.map Located.token) nesting expr) ∧
    ∀ nesting nesting' expr expr', Derives .conditional (tokens.map Located.token) nesting expr →
      Derives .conditional (tokens.map Located.token) nesting' expr' → expr = expr' := by
  refine ⟨fun expr => ⟨?_, ?_⟩, fun _ _ _ _ first second => derives_unique first second⟩
  · intro parsed
    obtain ⟨nesting, derives, _⟩ := Parse.exists_derives_of_parse parsed
    exact ⟨nesting, derives⟩
  · rintro ⟨nesting, derives⟩
    have bounds := derives.nesting_lt_and_depth_le_length
    rw [List.length_map] at bounds
    exact Parse.parse_of_derives derives (by omega) (by omega)

/-- Differences group to the left, and a minus sign in front of an operand is not a difference: the
tokens of `7-2--1` derive one tree, which the parser returns. -/
theorem parse_accepts_differences :
    let tokens : List Located := [⟨.number ['7'], 0⟩, ⟨.operator .subtract, 1⟩, ⟨.number ['2'], 2⟩,
      ⟨.operator .subtract, 3⟩, ⟨.operator .subtract, 4⟩, ⟨.number ['1'], 5⟩]
    let tree := Expr.binary .subtract (.binary .subtract (.literal ['7']) (.literal ['2']))
      (.unary .minus (.literal ['1']))
    tokens.length + 1 ≤ 7 ∧ (parse ⟨7, 7⟩ tokens).outcome = .ok tree ∧
      ∀ expr, (∃ nesting, Derives .conditional (tokens.map Located.token) nesting expr) ↔
        expr = tree := by
  intro tokens tree
  have room : tokens.length + 1 ≤ 7 := by decide
  obtain ⟨accepts, unique⟩ := parse_accepts_grammar ⟨7, 7⟩ tokens room room
  have parsed : (parse ⟨7, 7⟩ tokens).outcome = .ok tree := by cbv
  obtain ⟨nesting, derives⟩ := (accepts tree).mp parsed
  refine ⟨room, parsed, fun expr => ⟨?_, ?_⟩⟩
  · rintro ⟨nesting', derives'⟩
    exact unique _ _ _ _ derives' derives
  · rintro rfl
    exact ⟨nesting, derives⟩

end Calculator
