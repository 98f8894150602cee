import Calculator.Proofs.Expr.Acceptance

/-!
# The records of parsing

The parser leaves a record when it builds a tree from its operands. It builds each node of the
expression that it returns once, after the operands of the node and from left to right, and it
builds nothing else. So the records of a successful parse are the nodes of the expression in
postorder, the expression itself being the last (`records_parse`).

A level of the grammar adds the records of the tree that it returns to those that are already there
(`Accounts`). One lemma for each level says so, and a chain of operators adds to the records of what
stands to its left.
-/

set_option autoImplicit false

namespace Calculator

/-! ## Records that belong to a result -/

/-- The computation, if it succeeds after the records `before`, leaves in all the records that
belong to its result. -/
def Accounts {ε α : Type} (before : List Record) (computation : Traced ε α)
    (account : α → List Record) : Prop :=
  ∀ a, computation.outcome = .ok a → before ++ computation.records = account a

namespace Accounts

variable {ε α β : Type} {before : List Record} {account : α → List Record}
  {account' : β → List Record}

theorem pure {a : α} (same : before = account a) :
    Accounts before (Pure.pure a : Traced ε α) account := by
  intro a' succeeds
  cases succeeds
  rw [Traced.records_pure, List.append_nil, same]

theorem fail {error : ε} : Accounts before (Traced.fail error : Traced ε α) account := by
  intro a succeeds
  cases succeeds

/-- A sequence accounts for the records of both parts. -/
theorem bind {first : Traced ε α} {next : α → Traced ε β} (leaves : Accounts before first account)
    (continues : ∀ a, first.outcome = .ok a → Accounts (account a) (next a) account') :
    Accounts before (first >>= next) account' := by
  intro b succeeds
  obtain ⟨a, succeeds, succeedsNext⟩ := Traced.outcome_bind_eq_ok_iff.mp succeeds
  rw [Traced.records_bind, succeeds, ← List.append_assoc, leaves a succeeds]
  exact continues a succeeds b succeedsNext

/-- What belongs to the result comes after what was there before. -/
theorem after {computation : Traced ε α} (accounts : Accounts [] computation account)
    (before : List Record) : Accounts before computation fun a => before ++ account a := by
  intro a succeeds
  have own := accounts a succeeds
  rw [List.nil_append] at own
  rw [own]

end Accounts

/-- The nodes of an expression, each after its operands. -/
def Expr.postorder : Expr → List Expr
  | literal digits => [.literal digits]
  | unary op operand => operand.postorder ++ [.unary op operand]
  | binary op left right => left.postorder ++ right.postorder ++ [.binary op left right]
  | conditional condition whenTrue whenFalse =>
      condition.postorder ++ whenTrue.postorder ++ whenFalse.postorder ++
        [.conditional condition whenTrue whenFalse]

/-- The records of building an expression. -/
def Expr.folds (expr : Expr) : List Record :=
  expr.postorder.map .folded

namespace Parse

variable {limits : Limits} {nesting rank : Nat} {tokens : List Located}

theorem accounts_deeper (before : List Record) :
    Accounts before (deeper limits nesting) fun _ => before := by
  unfold deeper
  split
  · exact .fail
  · exact .pure rfl

/-- A tree that is built leaves one record. -/
theorem accounts_fold {before : List Record} {tree : Expr} {depth : Nat}
    (builds : before ++ [.folded tree] = tree.folds) :
    Accounts before (fold limits tree depth) fun read => read.tree.folds := by
  intro read succeeds
  obtain ⟨room, rfl⟩ := fold_eq_ok_iff.mp succeeds
  rw [fold, if_neg (by omega)]
  exact builds

/-- A level that succeeds leaves the records of the tree that it returns. -/
abbrev LevelAccounts (limits : Limits) (stratum : Stratum) (nesting : Nat)
    (tokens : List Located) : Prop :=
  Accounts [] (treeAt limits stratum nesting tokens) fun parsed => parsed.read.tree.folds

/-! ### The levels

Each level accounts for its records if those levels do that it calls. -/

theorem accounts_primary
    (inner : ∀ inside, inside.length < tokens.length →
      LevelAccounts limits .conditional (nesting + 1) inside) :
    LevelAccounts limits .primary nesting tokens := by
  match tokens with
  | [] =>
      rw [LevelAccounts, treeAt]
      exact .fail
  | ⟨.number digits, position⟩ :: rest =>
      rw [LevelAccounts, treeAt]
      exact (accounts_fold rfl).bind fun _ _ => .pure rfl
  | ⟨.openParen, opened⟩ :: inside =>
      rw [LevelAccounts, treeAt]
      refine (accounts_deeper []).bind fun _ entered => ?_
      obtain ⟨_, rfl⟩ := deeper_eq_ok_iff.mp entered
      refine (inner inside (by simp)).bind fun _ _ => ?_
      split
      · exact .pure rfl
      · exact .fail
  | ⟨.operator op, position⟩ :: rest | ⟨.question, position⟩ :: rest
  | ⟨.colon, position⟩ :: rest | ⟨.closeParen, position⟩ :: rest =>
      rw [LevelAccounts, treeAt]
      · exact .fail
      all_goals simp

theorem accounts_signed (alone : LevelAccounts limits .primary nesting tokens)
    (operand : ∀ others, others.length < tokens.length →
      LevelAccounts limits .signed (nesting + 1) others) :
    LevelAccounts limits .signed nesting tokens := by
  match tokens with
  | [] =>
      rw [LevelAccounts, treeAt]
      exact alone
  | ⟨token, position⟩ :: rest =>
      rw [LevelAccounts, treeAt]
      cases sign? token with
      | none => exact alone
      | some op =>
          refine (accounts_deeper []).bind fun _ entered => ?_
          obtain ⟨_, rfl⟩ := deeper_eq_ok_iff.mp entered
          refine (operand rest (by simp)).bind fun parsed _ => ?_
          refine Accounts.bind (accounts_fold ?_) fun _ _ => .pure rfl
          simp [Expr.folds, Expr.postorder]

theorem accounts_infixed_zero (base : LevelAccounts limits .signed nesting tokens)
    (exponent : ∀ others, others.length < tokens.length →
      LevelAccounts limits (.infixed 0) (nesting + 1) others) :
    LevelAccounts limits (.infixed 0) nesting tokens := by
  rw [LevelAccounts, treeAt]
  refine base.bind fun parsed _ => ?_
  split
  · rename_i shorter _
    refine (accounts_deeper _).bind fun _ entered => ?_
    obtain ⟨_, rfl⟩ := deeper_eq_ok_iff.mp entered
    refine ((exponent _ (Nat.lt_of_succ_lt shorter)).after _).bind fun _ _ => ?_
    refine Accounts.bind (accounts_fold ?_) fun _ _ => .pure rfl
    simp [Expr.folds, Expr.postorder]
  · exact .pure rfl

/-- A chain adds its records to those of what stands to its left. -/
theorem accounts_continueFrom
    (operands : ∀ others, others.length < tokens.length →
      LevelAccounts limits (.infixed rank) nesting others) (left : Parsed tokens) :
    Accounts left.read.tree.folds (continueFrom limits rank nesting left)
      fun parsed => parsed.read.tree.folds := by
  induction length : left.rest.length using Nat.strongRecOn generalizing left with
  | ind size ih =>
      obtain ⟨leftRead, middle, shorter⟩ := left
      rw [continueFrom.eq_def]
      split
      · rename_i op position others shorterOthers same
        cases same
        simp only [List.length_cons] at shorter length
        split
        · refine ((operands others (by omega)).after _).bind fun right _ => ?_
          have shorterLater := right.shorter
          refine Accounts.bind (accounts_fold ?_) fun read _ => ?_
          · simp [Expr.folds, Expr.postorder]
          · exact ih _ (by simp only; omega) ⟨read, right.rest, by omega⟩ rfl
        · exact .pure rfl
      · exact .pure rfl

theorem accounts_infixed_succ (first : LevelAccounts limits (.infixed rank) nesting tokens)
    (operands : ∀ others, others.length < tokens.length →
      LevelAccounts limits (.infixed rank) nesting others) :
    LevelAccounts limits (.infixed (rank + 1)) nesting tokens := by
  rw [LevelAccounts, treeAt]
  exact first.bind fun left _ => accounts_continueFrom operands left

theorem accounts_conditional
    (asked : LevelAccounts limits (.infixed BinaryOperator.loosestRank) nesting tokens)
    (branches : ∀ others, others.length < tokens.length →
      LevelAccounts limits .conditional (nesting + 1) others) :
    LevelAccounts limits .conditional nesting tokens := by
  rw [LevelAccounts, treeAt]
  refine asked.bind fun parsed _ => ?_
  split
  · rename_i chosen shorter _
    have shorterChosen : chosen.length < tokens.length := Nat.lt_of_succ_lt shorter
    refine (accounts_deeper _).bind fun _ entered => ?_
    obtain ⟨_, rfl⟩ := deeper_eq_ok_iff.mp entered
    refine ((branches chosen shorterChosen).after _).bind fun parsedTrue _ => ?_
    split
    · rename_i otherwise shorterTrue _
      have shorterOtherwise : otherwise.length < chosen.length := Nat.lt_of_succ_lt shorterTrue
      refine ((branches otherwise (by omega)).after _).bind fun _ _ => ?_
      refine Accounts.bind (accounts_fold ?_) fun _ _ => .pure rfl
      simp [Expr.folds, Expr.postorder]
    · exact .fail
  · exact .pure rfl

/-- **Every level leaves the records of its tree**, and no others. -/
theorem accounts_treeAt (limits : Limits) (stratum : Stratum) (nesting : Nat)
    (tokens : List Located) : LevelAccounts limits stratum nesting tokens :=
  induct_levels (fun _ _ => accounts_primary) (fun _ _ => accounts_signed)
    (fun _ _ => accounts_infixed_zero) (fun _ _ _ => accounts_infixed_succ)
    (fun _ _ => accounts_conditional) stratum nesting tokens

end Parse

/-- **A successful parse leaves the nodes of its expression in postorder**, and then its depth. -/
theorem records_parse {limits : Limits} {tokens : List Located} {expr : Expr}
    (parsed : (parse limits tokens).outcome = .ok expr) :
    (parse limits tokens).records = expr.folds ++ [.measured expr.depth] := by
  have measures (read : Measured) (shorter : [].length < tokens.length)
      (reads : (Parse.treeAt limits .conditional 0 tokens).outcome = .ok ⟨read, [], shorter⟩) :
      read.depth = read.tree.depth := by
    obtain ⟨_, _, _, _, _, same, _⟩ := Parse.justified_of_reads ⟨shorter, reads⟩
    exact same
  have accounts : Accounts [] (parse limits tokens) fun expr =>
      expr.folds ++ [.measured expr.depth] := by
    unfold parse
    refine (Parse.accounts_treeAt limits .conditional 0 tokens).bind fun result reads => ?_
    obtain ⟨read, rest, shorter⟩ := result
    cases rest with
    | cons next others => exact .fail
    | nil =>
        intro expr' succeeds
        cases succeeds
        change read.tree.folds ++ [.measured read.depth] = _
        rw [measures read shorter reads]
  have own := accounts expr parsed
  rwa [List.nil_append] at own

end Calculator
