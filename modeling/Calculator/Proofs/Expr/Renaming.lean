import Calculator.Proofs.Expr.Levels

/-!
# Places and digits do not matter to parsing

The parser looks at a token to find out what kind of token it is, and at the operator if it is one.
It never looks at the place of a token or at the digits of a number, and it hands on both as they
are. So when places and digits are replaced by other ones, tokens that form an expression form it
with the other digits, and tokens that form none fail for the same cause at the other place
(`parse_rename`). The places need not be in order and the digits need not write numbers.

The statement holds of each level if it holds of the levels that it calls. Two runs are followed
side by side, and one has the outcome of the other one, renamed (`Renames`).
-/

set_option autoImplicit false

namespace Calculator

/-! ## Renaming -/

/-- The token with other digits, if it is a number. -/
def Token.mapDigits (g : List Char → List Char) : Token → Token
  | number digits => number (g digits)
  | operator op => operator op
  | question => question
  | colon => colon
  | openParen => openParen
  | closeParen => closeParen

/-- The token at another place and with other digits. -/
def Located.rename (f : Nat → Nat) (g : List Char → List Char) (located : Located) : Located :=
  ⟨located.token.mapDigits g, f located.position⟩

/-- The expression with other digits in each literal. -/
def Expr.mapDigits (g : List Char → List Char) : Expr → Expr
  | literal digits => literal (g digits)
  | unary op operand => unary op (operand.mapDigits g)
  | binary op left right => binary op (left.mapDigits g) (right.mapDigits g)
  | conditional condition whenTrue whenFalse =>
      conditional (condition.mapDigits g) (whenTrue.mapDigits g) (whenFalse.mapDigits g)

/-- The failure at another place, with other digits in a token that it shows. The limit that it
names is the same. -/
def ParseError.rename (f : Nat → Nat) (g : List Char → List Char) : ParseError → ParseError
  | expectedOperand found position => expectedOperand (found.mapDigits g) (f position)
  | unexpectedEnd => unexpectedEnd
  | unclosedParenthesis opened => unclosedParenthesis (f opened)
  | missingColon question => missingColon (f question)
  | trailingInput found position => trailingInput (found.mapDigits g) (f position)
  | nestingTooDeep limit => nestingTooDeep limit
  | treeTooDeep limit => treeTooDeep limit

/-- The measured tree with other digits. Its depth is the same. -/
def Measured.mapDigits (g : List Char → List Char) (read : Measured) : Measured :=
  ⟨read.tree.mapDigits g, read.depth⟩

namespace Parse

variable {f : Nat → Nat} {g : List Char → List Char} {limits : Limits} {nesting rank : Nat}
  {tokens : List Located}

/-- What was read of the second tokens is what was read of the first ones, renamed. -/
structure SameParsed (f : Nat → Nat) (g : List Char → List Char) {tokens renamed : List Located}
    (parsed : Parsed tokens) (other : Parsed renamed) : Prop where
  read : other.read = parsed.read.mapDigits g
  rest : other.rest = parsed.rest.map (Located.rename f g)

/-- The second computation has the outcome of the first one, renamed. -/
abbrev Renames (f : Nat → Nat) (g : List Char → List Char) {α β : Type} (results : α → β → Prop)
    (computation : Traced ParseError α) (other : Traced ParseError β) : Prop :=
  Corresponds results (fun error error' => error' = error.rename f g) computation.outcome
    other.outcome

theorem renames_deeper (limits : Limits) (nesting : Nat) :
    Renames f g Eq (deeper limits nesting) (deeper limits nesting) := by
  unfold deeper
  split
  · exact .error rfl
  · exact .ok rfl

theorem renames_fold (limits : Limits) (tree : Expr) (depth : Nat) :
    Renames f g (fun read read' => read' = read.mapDigits g) (fold limits tree depth)
      (fold limits (tree.mapDigits g) depth) := by
  unfold fold
  split
  · exact .error rfl
  · exact .ok rfl

/-- Digits do not matter to whether a token is a sign. -/
theorem sign?_mapDigits (token : Token) : sign? (token.mapDigits g) = sign? token := by
  cases token <;> rfl

/-- A level on renamed tokens. -/
abbrev LevelRenames (f : Nat → Nat) (g : List Char → List Char) (limits : Limits)
    (stratum : Stratum) (nesting : Nat) (tokens : List Located) : Prop :=
  Renames f g (SameParsed f g) (treeAt limits stratum nesting tokens)
    (treeAt limits stratum nesting (tokens.map (Located.rename f g)))

/-! ## The levels -/

theorem renames_primary
    (inner : ∀ inside : List Located, inside.length < tokens.length →
      LevelRenames f g limits .conditional (nesting + 1) inside) :
    LevelRenames f g limits .primary nesting tokens := by
  match tokens with
  | [] =>
      rw [LevelRenames, Renames, List.map_nil, treeAt]
      exact .error rfl
  | ⟨.number digits, position⟩ :: rest =>
      rw [LevelRenames, Renames, List.map_cons, Located.rename, Token.mapDigits, treeAt, treeAt]
      refine (renames_fold limits _ _).outcome_bind ?_
      rintro _ _ _ rfl
      exact .ok ⟨rfl, rfl⟩
  | ⟨.openParen, opened⟩ :: inside =>
      rw [LevelRenames, Renames, List.map_cons, Located.rename, Token.mapDigits, treeAt, treeAt]
      refine (renames_deeper limits nesting).outcome_bind ?_
      rintro _ _ entered rfl
      obtain ⟨_, rfl⟩ := deeper_eq_ok_iff.mp entered
      refine (inner inside (by simp)).outcome_bind ?_
      rintro ⟨read, rest, shorter⟩ ⟨_, _, _⟩ _ ⟨rfl, rfl⟩
      cases rest with
      | nil => exact .error rfl
      | cons next others =>
          obtain ⟨token, position⟩ := next
          cases token with
          | closeParen => exact .ok ⟨rfl, rfl⟩
          | _ => exact .error rfl
  | ⟨.operator op, position⟩ :: rest | ⟨.question, position⟩ :: rest
  | ⟨.colon, position⟩ :: rest | ⟨.closeParen, position⟩ :: rest =>
      rw [LevelRenames, Renames, List.map_cons, Located.rename, Token.mapDigits, treeAt, treeAt]
      · exact .error rfl
      all_goals simp

theorem renames_signed (alone : LevelRenames f g limits .primary nesting tokens)
    (operand : ∀ others : List Located, others.length < tokens.length →
      LevelRenames f g limits .signed (nesting + 1) others) :
    LevelRenames f g limits .signed nesting tokens := by
  match tokens with
  | [] =>
      rw [LevelRenames, Renames, List.map_nil, treeAt]
      exact alone
  | ⟨token, position⟩ :: rest =>
      rw [LevelRenames, Renames, List.map_cons, Located.rename, treeAt, treeAt, sign?_mapDigits]
      cases sign? token with
      | none => exact alone
      | some op =>
          refine (renames_deeper limits nesting).outcome_bind ?_
          rintro _ _ entered rfl
          obtain ⟨_, rfl⟩ := deeper_eq_ok_iff.mp entered
          refine (operand rest (by simp)).outcome_bind ?_
          rintro ⟨read, rest, shorter⟩ ⟨_, _, _⟩ _ ⟨rfl, rfl⟩
          refine (renames_fold limits _ _).outcome_bind ?_
          rintro _ _ _ rfl
          exact .ok ⟨rfl, rfl⟩

theorem renames_infixed_zero (base : LevelRenames f g limits .signed nesting tokens)
    (exponent : ∀ others : List Located, others.length < tokens.length →
      LevelRenames f g limits (.infixed 0) (nesting + 1) others) :
    LevelRenames f g limits (.infixed 0) nesting tokens := by
  rw [LevelRenames, Renames, treeAt, treeAt]
  refine base.outcome_bind ?_
  rintro ⟨baseRead, middle, shorter⟩ ⟨_, _, _⟩ _ ⟨rfl, rfl⟩
  cases middle with
  | nil => exact .ok ⟨rfl, rfl⟩
  | cons next others =>
      obtain ⟨token, position⟩ := next
      cases token with
      | operator op =>
          cases op with
          | power =>
              refine (renames_deeper limits nesting).outcome_bind ?_
              rintro _ _ entered rfl
              obtain ⟨_, rfl⟩ := deeper_eq_ok_iff.mp entered
              refine (exponent others (Nat.lt_of_succ_lt shorter)).outcome_bind ?_
              rintro ⟨read, rest, _⟩ ⟨_, _, _⟩ _ ⟨rfl, rfl⟩
              refine (renames_fold limits _ _).outcome_bind ?_
              rintro _ _ _ rfl
              exact .ok ⟨rfl, rfl⟩
          | _ => exact .ok ⟨rfl, rfl⟩
      | _ => exact .ok ⟨rfl, rfl⟩

/-- A chain of renamed tokens, from what stands to its left. -/
theorem renames_continueFrom {renamed : List Located}
    (operands : ∀ others : List Located, others.length < tokens.length →
      LevelRenames f g limits (.infixed rank) nesting others)
    (left : Parsed tokens) (left' : Parsed renamed) (same : SameParsed f g left left') :
    Renames f g (SameParsed f g) (continueFrom limits rank nesting left)
      (continueFrom limits rank nesting left') := by
  induction length : left.rest.length using Nat.strongRecOn generalizing left left' with
  | ind size ih =>
      obtain ⟨leftRead, middle, shorter⟩ := left
      obtain ⟨_, _, shorter'⟩ := left'
      obtain ⟨rfl, rfl⟩ := same
      rw [Renames, continueFrom.eq_def, continueFrom.eq_def]
      cases middle with
      | nil => exact .ok ⟨rfl, rfl⟩
      | cons next others =>
          obtain ⟨token, position⟩ := next
          cases token with
          | operator op =>
              simp only [List.length_cons] at shorter length
              simp only [List.map_cons, Located.rename, Token.mapDigits]
              split
              · refine (operands others (by omega)).outcome_bind ?_
                rintro ⟨right, later, shorterLater⟩ ⟨_, _, _⟩ _ ⟨rfl, rfl⟩
                refine (renames_fold limits _ _).outcome_bind ?_
                rintro _ _ _ rfl
                exact ih _ (by simp only; omega) _ _ ⟨rfl, rfl⟩ rfl
              · exact .ok ⟨rfl, rfl⟩
          | _ => exact .ok ⟨rfl, rfl⟩

theorem renames_infixed_succ (first : LevelRenames f g limits (.infixed rank) nesting tokens)
    (operands : ∀ others : List Located, others.length < tokens.length →
      LevelRenames f g limits (.infixed rank) nesting others) :
    LevelRenames f g limits (.infixed (rank + 1)) nesting tokens := by
  rw [LevelRenames, Renames, treeAt, treeAt]
  refine first.outcome_bind fun left left' _ same => ?_
  exact renames_continueFrom operands left left' same

theorem renames_conditional
    (asked : LevelRenames f g limits (.infixed BinaryOperator.loosestRank) nesting tokens)
    (branches : ∀ others : List Located, others.length < tokens.length →
      LevelRenames f g limits .conditional (nesting + 1) others) :
    LevelRenames f g limits .conditional nesting tokens := by
  rw [LevelRenames, Renames, treeAt, treeAt]
  refine asked.outcome_bind ?_
  rintro ⟨condition, middle, shorter⟩ ⟨_, _, _⟩ _ ⟨rfl, rfl⟩
  cases middle with
  | nil => exact .ok ⟨rfl, rfl⟩
  | cons next chosen =>
      obtain ⟨token, question⟩ := next
      have shorterChosen : chosen.length < tokens.length := Nat.lt_of_succ_lt shorter
      cases token with
      | question =>
          refine (renames_deeper limits nesting).outcome_bind ?_
          rintro _ _ entered rfl
          obtain ⟨_, rfl⟩ := deeper_eq_ok_iff.mp entered
          refine (branches chosen shorterChosen).outcome_bind ?_
          rintro ⟨whenTrue, middle, shorterTrue⟩ ⟨_, _, _⟩ _ ⟨rfl, rfl⟩
          cases middle with
          | nil => exact .error rfl
          | cons next otherwise =>
              obtain ⟨token, colon⟩ := next
              have shorterOtherwise : otherwise.length < chosen.length :=
                Nat.lt_of_succ_lt shorterTrue
              cases token with
              | colon =>
                  refine (branches otherwise (by omega)).outcome_bind ?_
                  rintro ⟨whenFalse, rest, _⟩ ⟨_, _, _⟩ _ ⟨rfl, rfl⟩
                  refine (renames_fold limits _ _).outcome_bind ?_
                  rintro _ _ _ rfl
                  exact .ok ⟨rfl, rfl⟩
              | _ => exact .error rfl
      | _ => exact .ok ⟨rfl, rfl⟩

/-- **Every level reads renamed tokens as it reads the tokens.** -/
theorem renames_treeAt (f : Nat → Nat) (g : List Char → List Char) (limits : Limits)
    (stratum : Stratum) (nesting : Nat) (tokens : List Located) :
    LevelRenames f g limits stratum nesting tokens :=
  induct_levels (fun _ _ => renames_primary) (fun _ _ => renames_signed)
    (fun _ _ => renames_infixed_zero) (fun _ _ _ => renames_infixed_succ)
    (fun _ _ => renames_conditional) stratum nesting tokens

end Parse

/-- **The parser is blind to places and digits.** Put any places and any digits in the stead of
those of the tokens. Then the tokens parse to the same expression with these digits in its literals,
or they fail for the same cause: at the place that now stands for the old one, with the new digits
if the token that the failure shows is a number, and with the same limit if it names one. -/
theorem parse_rename (limits : Limits) (tokens : List Located) (f : Nat → Nat)
    (g : List Char → List Char) :
    (parse limits (tokens.map (Located.rename f g))).outcome =
      ((parse limits tokens).outcome.map (Expr.mapDigits g)).mapError (ParseError.rename f g) := by
  apply Corresponds.eq_image
  unfold parse
  refine (Parse.renames_treeAt f g limits .conditional 0 tokens).outcome_bind ?_
  rintro ⟨read, rest, _⟩ ⟨_, _, _⟩ _ ⟨rfl, rfl⟩
  cases rest with
  | nil => exact .ok rfl
  | cons next others => exact .error rfl

end Calculator
