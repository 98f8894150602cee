import Calculator.Proofs.Evaluation.Failures

/-!
# Tighter limits

Limits that allow less leave every outcome as it is, or turn it into a failure that
names them (`same_unless_limit_of_tighter`). This holds of parsing, of decoding and of
whole runs, and whether the outcome under the wider limits is a result or a failure:
under the tighter limits a calculation takes the same steps until one of the limits
ends it.

So two calculations are followed side by side (`SameUnless`). A sequence goes on as long
as its first part has the same result under both limits, and each level of the parser
needs one lemma (`sameUnlessLimit_treeAt`). Evaluation after a successful parse is under
no limit any more, since the parser has measured the tree
(`outcome_evaluateAt_eq_of_room`).
-/

set_option autoImplicit false

namespace Calculator

/-! ## Outcomes side by side -/

/-- The outcome is the other one, unless it is a failure of which `exempt` holds. -/
def SameUnless {ε α : Type} (exempt : ε → Prop) (outcome other : Except ε α) : Prop :=
  outcome = other ∨ ∃ error, outcome = .error error ∧ exempt error

namespace SameUnless

variable {ε ε' α β : Type} {exempt : ε → Prop} {outcome other : Except ε α}

theorem same : SameUnless exempt outcome outcome :=
  .inl rfl

theorem of_error {error : ε} (holds : exempt error) : SameUnless exempt (.error error) other :=
  .inr ⟨error, rfl, holds⟩

/-- Sequences are the same, unless one of their parts is not. -/
theorem bind {next next' : α → Except ε β} (first : SameUnless exempt outcome other)
    (second : ∀ a, outcome = .ok a → SameUnless exempt (next a) (next' a)) :
    SameUnless exempt (outcome >>= next) (other >>= next') := by
  rcases first with rfl | ⟨error, rfl, holds⟩
  · cases outcome with
    | ok a => exact second a rfl
    | error error => exact .inl rfl
  · exact of_error holds

/-- The same for computations that leave records. -/
theorem outcome_bind {computation computation' : Traced ε α} {next next' : α → Traced ε β}
    (first : SameUnless exempt computation.outcome computation'.outcome)
    (second : ∀ a, computation.outcome = .ok a →
      SameUnless exempt (next a).outcome (next' a).outcome) :
    SameUnless exempt (computation >>= next).outcome (computation' >>= next').outcome := by
  rw [Traced.outcome_bind, Traced.outcome_bind]
  exact first.bind second

theorem mapError {exempt' : ε' → Prop} {f : ε → ε'} (same : SameUnless exempt outcome other)
    (holds : ∀ error, exempt error → exempt' (f error)) :
    SameUnless exempt' (outcome.mapError f) (other.mapError f) := by
  rcases same with rfl | ⟨error, rfl, exempted⟩
  · exact .inl rfl
  · exact of_error (holds error exempted)

end SameUnless

/-- The limits allow no more than the wider ones. -/
structure Limits.Tighter (limits wider : Limits) : Prop where
  nesting : limits.maxNesting ≤ wider.maxNesting
  depth : limits.maxDepth ≤ wider.maxDepth

/-- The failure is that of a limit of the parser, which it names. -/
inductive ParseError.OfLimit (limits : Limits) : ParseError → Prop where
  | nesting : OfLimit limits (.nestingTooDeep limits.maxNesting)
  | depth : OfLimit limits (.treeTooDeep limits.maxDepth)

/-- The failure is that of the parser, because of a limit. Evaluation of a tree that the parser
returned never fails because of one. -/
inductive Failure.OfLimit (limits : Limits) : Failure → Prop where
  | parse {error : ParseError} (ofLimit : error.OfLimit limits) : OfLimit limits (.parse error)

/-! ## Parsing -/

namespace Parse

variable {limits wider : Limits} {nesting rank : Nat} {tokens : List Located}

/-- A computation of the parser under both limits. -/
abbrev SameUnlessLimit (limits : Limits) {α : Type} (tight wide : Traced ParseError α) : Prop :=
  SameUnless (ParseError.OfLimit limits) tight.outcome wide.outcome

theorem sameUnlessLimit_deeper (tighter : limits.Tighter wider) (nesting : Nat) :
    SameUnlessLimit limits (deeper limits nesting) (deeper wider nesting) := by
  have := tighter.nesting
  unfold deeper
  split
  · exact .of_error .nesting
  · rw [if_neg (by omega)]
    exact .same

theorem sameUnlessLimit_fold (tighter : limits.Tighter wider) (tree : Expr) (depth : Nat) :
    SameUnlessLimit limits (fold limits tree depth) (fold wider tree depth) := by
  have := tighter.depth
  unfold fold
  split
  · exact .of_error .depth
  · rw [if_neg (by omega)]
    exact .same

/-- A level under both limits. -/
abbrev LevelSameUnlessLimit (limits wider : Limits) (stratum : Stratum) (nesting : Nat)
    (tokens : List Located) : Prop :=
  SameUnlessLimit limits (treeAt limits stratum nesting tokens)
    (treeAt wider stratum nesting tokens)

/-! ### The levels

Each level is the same unless a limit ends it, if those levels are that it calls. -/

theorem sameUnlessLimit_primary (tighter : limits.Tighter wider)
    (inner : ∀ inside, inside.length < tokens.length →
      LevelSameUnlessLimit limits wider .conditional (nesting + 1) inside) :
    LevelSameUnlessLimit limits wider .primary nesting tokens := by
  match tokens with
  | [] =>
      rw [LevelSameUnlessLimit, treeAt, treeAt]
      exact .same
  | ⟨.number digits, position⟩ :: rest =>
      rw [LevelSameUnlessLimit, treeAt, treeAt]
      exact (sameUnlessLimit_fold tighter _ _).outcome_bind fun _ _ => .same
  | ⟨.openParen, opened⟩ :: inside =>
      rw [LevelSameUnlessLimit, treeAt, treeAt]
      refine (sameUnlessLimit_deeper tighter nesting).outcome_bind fun _ entered => ?_
      obtain ⟨_, rfl⟩ := deeper_eq_ok_iff.mp entered
      refine (inner inside (by simp)).outcome_bind fun _ _ => .same
  | ⟨.operator op, position⟩ :: rest | ⟨.question, position⟩ :: rest
  | ⟨.colon, position⟩ :: rest | ⟨.closeParen, position⟩ :: rest =>
      rw [LevelSameUnlessLimit, treeAt, treeAt]
      · exact .same
      all_goals simp

theorem sameUnlessLimit_signed (tighter : limits.Tighter wider)
    (alone : LevelSameUnlessLimit limits wider .primary nesting tokens)
    (operand : ∀ others, others.length < tokens.length →
      LevelSameUnlessLimit limits wider .signed (nesting + 1) others) :
    LevelSameUnlessLimit limits wider .signed nesting tokens := by
  match tokens with
  | [] =>
      rw [LevelSameUnlessLimit, treeAt, treeAt]
      exact alone
  | ⟨token, position⟩ :: rest =>
      rw [LevelSameUnlessLimit, treeAt, treeAt]
      cases sign? token with
      | none => exact alone
      | some op =>
          refine (sameUnlessLimit_deeper tighter nesting).outcome_bind fun _ entered => ?_
          obtain ⟨_, rfl⟩ := deeper_eq_ok_iff.mp entered
          refine (operand rest (by simp)).outcome_bind fun _ _ => ?_
          exact (sameUnlessLimit_fold tighter _ _).outcome_bind fun _ _ => .same

theorem sameUnlessLimit_infixed_zero (tighter : limits.Tighter wider)
    (base : LevelSameUnlessLimit limits wider .signed nesting tokens)
    (exponent : ∀ others, others.length < tokens.length →
      LevelSameUnlessLimit limits wider (.infixed 0) (nesting + 1) others) :
    LevelSameUnlessLimit limits wider (.infixed 0) nesting tokens := by
  rw [LevelSameUnlessLimit, treeAt, treeAt]
  refine base.outcome_bind fun parsed _ => ?_
  split
  · rename_i shorter _
    refine (sameUnlessLimit_deeper tighter nesting).outcome_bind fun _ entered => ?_
    obtain ⟨_, rfl⟩ := deeper_eq_ok_iff.mp entered
    refine (exponent _ (Nat.lt_of_succ_lt shorter)).outcome_bind fun _ _ => ?_
    exact (sameUnlessLimit_fold tighter _ _).outcome_bind fun _ _ => .same
  · exact .same

/-- A chain is the same from what stands to its left. -/
theorem sameUnlessLimit_continueFrom (tighter : limits.Tighter wider)
    (operands : ∀ others, others.length < tokens.length →
      LevelSameUnlessLimit limits wider (.infixed rank) nesting others) (left : Parsed tokens) :
    SameUnlessLimit limits (continueFrom limits rank nesting left)
      (continueFrom wider rank nesting left) := by
  induction length : left.rest.length using Nat.strongRecOn generalizing left with
  | ind size ih =>
      obtain ⟨leftRead, middle, shorter⟩ := left
      rw [SameUnlessLimit, continueFrom.eq_def, continueFrom.eq_def]
      split
      · rename_i op position others shorterOthers same
        cases same
        simp only [List.length_cons] at shorter length
        split
        · refine (operands others (by omega)).outcome_bind fun right _ => ?_
          have shorterLater := right.shorter
          refine (sameUnlessLimit_fold tighter _ _).outcome_bind fun _ _ => ?_
          exact ih _ (by simp only; omega) _ rfl
        · exact .same
      · exact .same

theorem sameUnlessLimit_infixed_succ (tighter : limits.Tighter wider)
    (first : LevelSameUnlessLimit limits wider (.infixed rank) nesting tokens)
    (operands : ∀ others, others.length < tokens.length →
      LevelSameUnlessLimit limits wider (.infixed rank) nesting others) :
    LevelSameUnlessLimit limits wider (.infixed (rank + 1)) nesting tokens := by
  rw [LevelSameUnlessLimit, treeAt, treeAt]
  exact first.outcome_bind fun left _ => sameUnlessLimit_continueFrom tighter operands left

theorem sameUnlessLimit_conditional (tighter : limits.Tighter wider)
    (asked : LevelSameUnlessLimit limits wider (.infixed BinaryOperator.loosestRank) nesting tokens)
    (branches : ∀ others, others.length < tokens.length →
      LevelSameUnlessLimit limits wider .conditional (nesting + 1) others) :
    LevelSameUnlessLimit limits wider .conditional nesting tokens := by
  rw [LevelSameUnlessLimit, treeAt, treeAt]
  refine asked.outcome_bind fun parsed _ => ?_
  split
  · rename_i chosen shorter _
    have shorterChosen : chosen.length < tokens.length := Nat.lt_of_succ_lt shorter
    refine (sameUnlessLimit_deeper tighter nesting).outcome_bind fun _ entered => ?_
    obtain ⟨_, rfl⟩ := deeper_eq_ok_iff.mp entered
    refine (branches chosen shorterChosen).outcome_bind fun parsedTrue _ => ?_
    split
    · rename_i otherwise shorterTrue _
      have shorterOtherwise : otherwise.length < chosen.length := Nat.lt_of_succ_lt shorterTrue
      refine (branches otherwise (by omega)).outcome_bind fun _ _ => ?_
      exact (sameUnlessLimit_fold tighter _ _).outcome_bind fun _ _ => .same
    · exact .same
  · exact .same

/-- **The levels are the same, unless a limit ends them.** -/
theorem sameUnlessLimit_treeAt (tighter : limits.Tighter wider) (stratum : Stratum) (nesting : Nat)
    (tokens : List Located) : LevelSameUnlessLimit limits wider stratum nesting tokens :=
  induct_levels (fun _ _ => sameUnlessLimit_primary tighter)
    (fun _ _ => sameUnlessLimit_signed tighter) (fun _ _ => sameUnlessLimit_infixed_zero tighter)
    (fun _ _ _ => sameUnlessLimit_infixed_succ tighter)
    (fun _ _ => sameUnlessLimit_conditional tighter) stratum nesting tokens

end Parse

/-- Parsing is the same, unless a limit ends it. -/
theorem sameUnlessLimit_parse {limits wider : Limits} (tighter : limits.Tighter wider)
    (tokens : List Located) : Parse.SameUnlessLimit limits (parse limits tokens)
      (parse wider tokens) := by
  unfold parse
  exact (Parse.sameUnlessLimit_treeAt tighter .conditional 0 tokens).outcome_bind fun _ _ => .same

/-! ## Decoding -/

/-- A node is decoded alike when its operands are. -/
theorem Encoding.sameUnless_decodeNode {exempt : EvalError → Prop}
    {next next' : List Char → Except EvalError Expr} (node : Node (List Char))
    (each : ∀ operand ∈ node.operands, SameUnless exempt (next operand) (next' operand)) :
    SameUnless exempt (decodeNode next node) (decodeNode next' node) := by
  cases node with
  | literal digits => exact .same
  | unary op operand => exact (each operand (by simp [Node.operands])).bind fun _ _ => .same
  | binary op left right =>
      exact (each left (by simp [Node.operands])).bind fun _ _ =>
        (each right (by simp [Node.operands])).bind fun _ _ => .same
  | conditional condition whenTrue whenFalse =>
      exact (each condition (by simp [Node.operands])).bind fun _ _ =>
        (each whenTrue (by simp [Node.operands])).bind fun _ _ =>
          (each whenFalse (by simp [Node.operands])).bind fun _ _ => .same

/-- Decoding is the same, unless the limit ends it. -/
theorem Encoding.sameUnless_decodeAt {limits wider : Limits} (tighter : limits.Tighter wider)
    (depth : Nat) (text : List Char) :
    SameUnless (· = .tooDeep limits.maxDepth) (decodeAt limits depth text)
      (decodeAt wider depth text) := by
  have := tighter.depth
  induction length : text.length using Nat.strongRecOn generalizing depth text with
  | ind size ih =>
      rw [decodeAt_eq, decodeAt_eq]
      split
      · exact .of_error rfl
      · rw [if_neg (by omega)]
        cases found : read text with
        | error error => exact .same
        | ok node =>
            refine sameUnless_decodeNode node fun operand member => ?_
            exact ih _ (length ▸ length_lt_of_read found member) (depth + 1) operand rfl

/-! ## Runs -/

/-- Limits that a tree meets do not matter to its value. -/
theorem outcome_evaluateAt_eq_of_room {limits wider : Limits} {depth : Nat} {expr : Expr}
    (room : depth + expr.depth ≤ limits.maxDepth + 1)
    (room' : depth + expr.depth ≤ wider.maxDepth + 1) :
    (evaluateAt .tree limits depth expr).outcome = (evaluateAt .tree wider depth expr).outcome := by
  induction expr using Expr.induct_operands generalizing depth with
  | step expr ih =>
      have levels := expr.depth_pos
      rw [outcome_evaluateAt_of_node (by omega) rfl, outcome_evaluateAt_of_node (by omega) rfl]
      refine outcome_evaluateNode_eq_of_related (Node.related_self fun operand member => ?_)
      have := Expr.depth_lt_of_mem_operands member
      exact ih operand member (by omega) (by omega)

/-- A run is the same, unless a limit ends it while the expression is parsed. -/
theorem sameUnless_run {limits wider : Limits} (tighter : limits.Tighter wider)
    (source : List Char) :
    SameUnless (Failure.OfLimit limits) (run limits source).outcome (run wider source).outcome := by
  unfold run
  refine SameUnless.same.outcome_bind fun tokens _ => ?_
  refine SameUnless.same.outcome_bind fun _ _ => ?_
  have parsing : SameUnless (Failure.OfLimit limits) ((parse limits tokens).mapError .parse).outcome
      ((parse wider tokens).mapError .parse).outcome :=
    (sameUnlessLimit_parse tighter tokens).mapError fun _ => .parse
  refine SameUnless.outcome_bind parsing fun expr parsed => ?_
  obtain ⟨_, _, _, shallow⟩ := Parse.exists_derives_of_parse (mapError_eq_ok_iff.mp parsed)
  have same : (evaluate limits expr).outcome = (evaluate wider expr).outcome :=
    outcome_evaluateAt_eq_of_room (by omega) (by have := tighter.depth; omega)
  refine SameUnless.same.outcome_bind fun _ _ => ?_
  refine SameUnless.outcome_bind (.inl ?_) fun value _ => .same
  rw [Traced.outcome_mapError, Traced.outcome_mapError, same]

/-- **Tighter limits leave an outcome as it is, or end it with a failure that names them.** This
holds of parsing tokens, of decoding a text and of running source text, whether the outcome under
the wider limits is a result or a failure. A run fails in parsing then. -/
theorem same_unless_limit_of_tighter (limits wider : Limits)
    (tighterNesting : limits.maxNesting ≤ wider.maxNesting)
    (tighterDepth : limits.maxDepth ≤ wider.maxDepth) :
    (∀ tokens, (parse limits tokens).outcome = (parse wider tokens).outcome ∨
      (parse limits tokens).outcome = .error (.nestingTooDeep limits.maxNesting) ∨
      (parse limits tokens).outcome = .error (.treeTooDeep limits.maxDepth)) ∧
    (∀ text, Encoding.decode limits text = Encoding.decode wider text ∨
      Encoding.decode limits text = .error (.tooDeep limits.maxDepth)) ∧
    ∀ source, (run limits source).outcome = (run wider source).outcome ∨
      (run limits source).outcome = .error (.parse (.nestingTooDeep limits.maxNesting)) ∨
      (run limits source).outcome = .error (.parse (.treeTooDeep limits.maxDepth)) := by
  have tighter : limits.Tighter wider := ⟨tighterNesting, tighterDepth⟩
  refine ⟨fun tokens => ?_, fun text => ?_, fun source => ?_⟩
  · rcases sameUnlessLimit_parse tighter tokens with same | ⟨_, failed, ofLimit⟩
    · exact .inl same
    · cases ofLimit with
      | nesting => exact .inr (.inl failed)
      | depth => exact .inr (.inr failed)
  · rcases Encoding.sameUnless_decodeAt tighter 1 text with same | ⟨_, failed, rfl⟩
    · exact .inl same
    · exact .inr failed
  · rcases sameUnless_run tighter source with same | ⟨_, failed, ⟨ofLimit⟩⟩
    · exact .inl same
    · cases ofLimit with
      | nesting => exact .inr (.inl failed)
      | depth => exact .inr (.inr failed)

/-- Limits of one nested construct and two levels, against limits of two and three. The tokens of
`((1` fail under both, for the parenthesis and for the nesting. A text with a literal that writes no
number fails for it under the wider limits, and for its depth under the tighter ones. A division by
zero is found under both. -/
theorem same_unless_limit_of_tighter_of_failures :
    let tokens : List Located := [⟨.openParen, 0⟩, ⟨.openParen, 1⟩, ⟨.number ['1'], 2⟩]
    let text := "-(+(n:x))".toList
    let source := "7 / 0".toList
    (1 ≤ 2 ∧ 2 ≤ 3) ∧
      (parse ⟨2, 3⟩ tokens).outcome = .error (.unclosedParenthesis 1) ∧
      (parse ⟨1, 2⟩ tokens).outcome = .error (.nestingTooDeep 1) ∧
      Encoding.decode ⟨2, 3⟩ text = .error (.invalidLiteral ['x']) ∧
      Encoding.decode ⟨1, 2⟩ text = .error (.tooDeep 2) ∧
      (run ⟨1, 2⟩ source).outcome = .error (.eval (.divisionByZero .divide)) ∧
      (run ⟨2, 3⟩ source).outcome = .error (.eval (.divisionByZero .divide)) := by
  intro tokens text source
  obtain ⟨_, decoding, running⟩ :=
    same_unless_limit_of_tighter ⟨1, 2⟩ ⟨2, 3⟩ (by decide) (by decide)
  have parsed : (parse ⟨2, 3⟩ tokens).outcome = .error (.unclosedParenthesis 1) := by cbv
  have refused : (parse ⟨1, 2⟩ tokens).outcome = .error (.nestingTooDeep 1) := by cbv
  have decoded : Encoding.decode ⟨2, 3⟩ text = .error (.invalidLiteral ['x']) := by decide +kernel
  have differs : Encoding.decode ⟨1, 2⟩ text ≠ Encoding.decode ⟨2, 3⟩ text := by decide +kernel
  have ran : (run ⟨1, 2⟩ source).outcome = .error (.eval (.divisionByZero .divide)) := by
    have scanned : (tokenize source).outcome =
        .ok [⟨.number ['7'], 0⟩, ⟨.operator .divide, 2⟩, ⟨.number ['0'], 4⟩] := by decide +kernel
    have quotient : (parse ⟨1, 2⟩ [⟨.number ['7'], 0⟩, ⟨.operator .divide, 2⟩,
        ⟨.number ['0'], 4⟩]).outcome = .ok (.binary .divide (.literal ['7']) (.literal ['0'])) := by
      cbv
    rw [outcome_run_of_parse scanned quotient]
    decide +kernel
  refine ⟨⟨by decide, by decide⟩, parsed, refused, decoded, (decoding text).resolve_left differs,
    ran, ?_⟩
  rcases running source with same | failed | failed
  · exact same.symm.trans ran
  · cases ran.symm.trans failed
  · cases ran.symm.trans failed

end Calculator
