import Calculator.Proofs.Expr.Acceptance

/-!
# The outline of an expression

What may come next in an expression depends on little of what came before: on
whether an operand must come next, and on which groups and conditionals wait for
the token that closes them. The precedence of operators has no part in it. An
`Outline` holds these two things, and `Outline.step?` says how a token changes them
and which tokens may come.

The parser keeps to the outline (`keepsOutline_treeAt`). The tokens of a tree that a
level reads take an outline that awaits an operand to the same outline with the
operand in place. Where a level fails, and not because of a limit, the outline of
the tokens so far admits no next token that could help, and it tells the error
(`Outline.Stuck`). Limits bind only when they are smaller than the number of tokens
(`Exceeds`).
-/

set_option autoImplicit false

namespace Calculator

/-! ## Openers -/

/-- A construct that waits for the token which closes it, and the place where it opens. -/
inductive Opener where
  | parenthesis (position : Nat)
  | question (position : Nat)
deriving Repr, DecidableEq

/-- The token that closes what an opener opens. -/
def Opener.closer : Opener → Token
  | parenthesis _ => .closeParen
  | question _ => .colon

/-- The failure to close what an opener opens. -/
def Opener.unclosed : Opener → ParseError
  | parenthesis position => .unclosedParenthesis position
  | question position => .missingColon position

/-- What is pending after one more token, the innermost opener first. A closing token closes the
innermost opener, which must be of its kind. -/
def pendingAfter? (pending : List Opener) (next : Located) : Option (List Opener) :=
  match next.token, pending with
  | .openParen, pending => some (.parenthesis next.position :: pending)
  | .question, pending => some (.question next.position :: pending)
  | .closeParen, .parenthesis _ :: outer => some outer
  | .colon, .question _ :: outer => some outer
  | .closeParen, _ | .colon, _ => none
  | .number _, pending | .operator _, pending => some pending

/-- The openers in a sequence of tokens that nothing has closed yet, the innermost first. -/
def pending? (tokens : List Located) : Option (List Opener) :=
  tokens.foldlM pendingAfter? []

/-- An operand must come after the token. -/
def awaitsAfter : Token → Bool
  | .number _ | .closeParen => false
  | _ => true

/-- An operand must come next: at the start, and after an operator, a mark of a conditional or an
open parenthesis. -/
def awaitsOperand (tokens : List Located) : Bool :=
  tokens.getLast?.all fun last => awaitsAfter last.token

/-! ## Outlines -/

/-- What decides which token may come next. -/
structure Outline where
  /-- An operand must come next. -/
  awaiting : Bool
  /-- The openers that nothing has closed yet, the innermost first. -/
  pending : List Opener
deriving Repr, DecidableEq

namespace Outline

/-- The token may stand where an operand must come next, or where one has just ended. -/
def fits (awaiting : Bool) (token : Token) : Bool :=
  match token with
  | .number _ | .openParen => awaiting
  | .operator _ => !awaiting || (Parse.sign? token).isSome
  | .question | .colon | .closeParen => !awaiting

/-- The outline after one more token, if it may come. -/
def step? (outline : Outline) (next : Located) : Option Outline :=
  if fits outline.awaiting next.token then
    (pendingAfter? outline.pending next).map fun pending => ⟨awaitsAfter next.token, pending⟩
  else none

theorem step?_eq_some_iff {outline after : Outline} {next : Located} :
    outline.step? next = some after ↔ fits outline.awaiting next.token = true ∧
      pendingAfter? outline.pending next = some after.pending ∧
        awaitsAfter next.token = after.awaiting := by
  obtain ⟨awaiting, pending⟩ := after
  simp only [step?, Option.ite_none_right_eq_some, Option.map_eq_some_iff, mk.injEq]
  grind

/-- The outline after more tokens, if each of them may come. -/
def run? (outline : Outline) (tokens : List Located) : Option Outline :=
  tokens.foldlM step? outline

/-- The outline of no tokens. -/
def start : Outline := ⟨true, []⟩

theorem run?_cons (outline : Outline) (next : Located) (rest : List Located) :
    outline.run? (next :: rest) = (outline.step? next).bind (run? · rest) :=
  List.foldlM_cons

theorem run?_singleton (outline : Outline) (next : Located) :
    outline.run? [next] = outline.step? next := by
  rw [run?_cons]
  cases outline.step? next <;> rfl

theorem run?_append (outline : Outline) (first second : List Located) :
    outline.run? (first ++ second) = (outline.run? first).bind (run? · second) :=
  List.foldlM_append

/-- The outline admits no next token that could help, and the error tells what it lacks. -/
inductive Stuck : Outline → Option Located → ParseError → Prop where
  | operand {pending : List Opener} {next : Located} (wrong : fits true next.token = false) :
      Stuck ⟨true, pending⟩ (some next) (.expectedOperand next.token next.position)
  | ending {pending : List Opener} : Stuck ⟨true, pending⟩ none .unexpectedEnd
  | unclosed {opener : Opener} {outer : List Opener} {next? : Option Located}
      (wrong : ∀ next ∈ next?, step? ⟨false, opener :: outer⟩ next = none) :
      Stuck ⟨false, opener :: outer⟩ next? opener.unclosed
  | trailing {next : Located} (wrong : step? ⟨false, []⟩ next = none) :
      Stuck ⟨false, []⟩ (some next) (.trailingInput next.token next.position)

end Outline

namespace Parse

open Outline

variable {limits : Limits} {stratum : Stratum} {nesting rank : Nat}
  {tokens used others rest : List Located} {read left right : Measured} {error : ParseError}

/-! ## Sequences of tokens in outline -/

/-- In outline the tokens are one operand, whatever is pending around them. -/
def Whole (used : List Located) : Prop :=
  ∀ pending, run? ⟨true, pending⟩ used = some ⟨false, pending⟩

/-- After the tokens an operand must come, as before them. -/
def Leads (used : List Located) : Prop :=
  ∀ pending, ∃ pending', run? ⟨true, pending⟩ used = some ⟨true, pending'⟩

/-- After the tokens an operand must come, and what they have opened is closed. -/
def Resumes (used : List Located) : Prop :=
  ∀ pending, run? ⟨true, pending⟩ used = some ⟨true, pending⟩

theorem Resumes.leads (resumes : Resumes used) : Leads used :=
  fun pending => ⟨pending, resumes pending⟩

theorem Whole.after (whole : Whole others) (resumes : Resumes used) : Whole (used ++ others) := by
  intro pending
  rw [run?_append, resumes, Option.bind_some, whole]

theorem whole_number (digits : List Char) (position : Nat) : Whole [⟨.number digits, position⟩] :=
  fun _ => rfl

theorem Whole.group (inside : Whole used) (opened closed : Nat) :
    Whole (⟨.openParen, opened⟩ :: (used ++ [⟨.closeParen, closed⟩])) := by
  intro pending
  rw [run?_cons]
  change run? ⟨true, .parenthesis opened :: pending⟩ _ = _
  rw [run?_append, inside]
  rfl

theorem leads_openParen (opened : Nat) : Leads [⟨.openParen, opened⟩] :=
  fun _ => ⟨_, rfl⟩

theorem resumes_of_sign? {token : Token} {op : UnaryOperator} (isSign : sign? token = some op)
    (position : Nat) : Resumes [⟨token, position⟩] := by
  intro pending
  unfold sign? at isSign
  split at isSign
  · rfl
  · rfl
  · cases isSign

theorem Whole.operator (whole : Whole used) (op : BinaryOperator) (position : Nat) :
    Resumes (used ++ [⟨.operator op, position⟩]) := by
  intro pending
  rw [run?_append, whole]
  rfl

theorem Whole.run?_question (whole : Whole used) (question : Nat) (pending : List Opener) :
    run? ⟨true, pending⟩ (used ++ [⟨.question, question⟩]) =
      some ⟨true, .question question :: pending⟩ := by
  rw [run?_append, whole]
  rfl

theorem Whole.colon (asked : Whole used) (chosen : Whole others) (question colon : Nat) :
    Resumes ((used ++ [⟨.question, question⟩]) ++ (others ++ [⟨.colon, colon⟩])) := by
  intro pending
  rw [run?_append, asked.run?_question, Option.bind_some, run?_append, chosen]
  rfl

/-! ## What the levels ensure -/

/-- The tokens in front of the rest are one operand in outline, and no fewer than the levels of the
tree that was read. -/
def Covers (tokens : List Located) (read : Measured) (rest : List Located) : Prop :=
  ∃ used, tokens = used ++ rest ∧ Whole used ∧ read.depth ≤ used.length

theorem Covers.depth_le (covers : Covers tokens read rest) :
    read.depth + rest.length ≤ tokens.length := by
  obtain ⟨used, rfl, _, small⟩ := covers
  rw [List.length_append]
  omega

theorem covers_number (digits : List Char) (position : Nat) (rest : List Located) :
    Covers (⟨.number digits, position⟩ :: rest) ⟨.literal digits, 1⟩ rest :=
  ⟨[⟨.number digits, position⟩], rfl, whole_number digits position, Nat.le_refl _⟩

theorem Covers.group {opened closed : Nat}
    (covers : Covers tokens read (⟨.closeParen, closed⟩ :: rest)) :
    Covers (⟨.openParen, opened⟩ :: tokens) read rest := by
  obtain ⟨used, rfl, whole, small⟩ := covers
  refine ⟨⟨.openParen, opened⟩ :: (used ++ [⟨.closeParen, closed⟩]), by simp,
    whole.group opened closed, ?_⟩
  simp only [List.length_cons, List.length_append]
  omega

theorem Covers.sign {token : Token} {op : UnaryOperator} (isSign : sign? token = some op)
    (covers : Covers tokens read rest) (position : Nat) (tree : Expr) :
    Covers (⟨token, position⟩ :: tokens) ⟨tree, read.depth + 1⟩ rest := by
  obtain ⟨used, rfl, whole, small⟩ := covers
  exact ⟨⟨token, position⟩ :: used, rfl, whole.after (resumes_of_sign? isSign position),
    Nat.succ_le_succ small⟩

theorem Covers.binary {op : BinaryOperator} {position : Nat}
    (coversLeft : Covers tokens left (⟨.operator op, position⟩ :: others))
    (coversRight : Covers others right rest) (tree : Expr) :
    Covers tokens ⟨tree, max left.depth right.depth + 1⟩ rest := by
  obtain ⟨used, rfl, whole, small⟩ := coversLeft
  obtain ⟨used', rfl, whole', small'⟩ := coversRight
  refine ⟨used ++ [⟨.operator op, position⟩] ++ used', by simp,
    whole'.after (whole.operator op position), ?_⟩
  simp only [List.length_append, List.length_cons]
  omega

theorem Covers.conditional {question colon : Nat} {chosen : List Located}
    {condition whenTrue whenFalse : Measured}
    (coversCondition : Covers tokens condition (⟨.question, question⟩ :: chosen))
    (coversTrue : Covers chosen whenTrue (⟨.colon, colon⟩ :: others))
    (coversFalse : Covers others whenFalse rest) (tree : Expr) :
    Covers tokens ⟨tree, max (max condition.depth whenTrue.depth) whenFalse.depth + 1⟩ rest := by
  obtain ⟨used, rfl, whole, small⟩ := coversCondition
  obtain ⟨used', rfl, whole', small'⟩ := coversTrue
  obtain ⟨used'', rfl, whole'', small''⟩ := coversFalse
  refine ⟨used ++ [⟨.question, question⟩] ++ (used' ++ [⟨.colon, colon⟩]) ++ used'', by simp,
    whole''.after (whole.colon whole' question colon), ?_⟩
  simp only [List.length_append, List.length_cons]
  omega

/-- The error comes from a limit that is smaller than the number of tokens, those counted too that
opened what is nested around them. -/
inductive Exceeds (limits : Limits) (nesting : Nat) (tokens : List Located) :
    ParseError → Prop where
  | nesting (few : limits.maxNesting < nesting + tokens.length) :
      Exceeds limits nesting tokens (.nestingTooDeep limits.maxNesting)
  | depth (few : limits.maxDepth < tokens.length) :
      Exceeds limits nesting tokens (.treeTooDeep limits.maxDepth)

/-- Limits that are at least the number of tokens do not bind. -/
theorem not_exceeds (roomForNesting : nesting + tokens.length ≤ limits.maxNesting)
    (roomForDepth : tokens.length ≤ limits.maxDepth) : ¬ Exceeds limits nesting tokens error := by
  rintro (few | few) <;> omega

/-- The outline of some of the tokens is stuck before the next, with the error. -/
def Halts (tokens : List Located) (error : ParseError) : Prop :=
  ∀ pending, ∃ used rest outline, tokens = used ++ rest ∧
    run? ⟨true, pending⟩ used = some outline ∧ outline.Stuck rest.head? error

/-- How a level may fail. -/
def Faults (limits : Limits) (nesting : Nat) (tokens : List Located) (error : ParseError) : Prop :=
  Exceeds limits nesting tokens error ∨ Halts tokens error

/-- A failure after some of the tokens is a failure on all of them. -/
theorem Faults.after {inner : Nat} (faults : Faults limits inner rest error) (leads : Leads used)
    (deeper : inner ≤ nesting + used.length) : Faults limits nesting (used ++ rest) error := by
  rcases faults with exceeds | halts
  · left
    cases exceeds with
    | nesting few => exact .nesting (by rw [List.length_append]; omega)
    | depth few => exact .depth (by rw [List.length_append]; omega)
  · right
    intro pending
    obtain ⟨pending', led⟩ := leads pending
    obtain ⟨more, later, outline, rfl, ran, stuck⟩ := halts pending'
    refine ⟨used ++ more, later, outline, by simp, ?_, stuck⟩
    rw [run?_append, led]
    exact ran

theorem ensures_deeper (room : 0 < tokens.length) :
    Ensures (deeper limits nesting).outcome (· = nesting + 1) (Faults limits nesting tokens) := by
  unfold deeper
  split
  · exact .inl (.nesting (by omega))
  · rfl

theorem Covers.ensures_fold {tree : Expr} {depth : Nat}
    (covers : Covers tokens ⟨tree, depth⟩ rest) :
    Ensures (fold limits tree depth).outcome (· = ⟨tree, depth⟩)
      (Faults limits nesting tokens) := by
  have small : depth + rest.length ≤ tokens.length := covers.depth_le
  unfold fold
  split
  · exact .inl (.depth (by omega))
  · rfl

/-- Where a tree ends and its opener is not closed, no token can come next. -/
theorem step?_eq_none_of_ends {pending : List Opener} (ends : Ends .conditional rest)
    (unclosed : ∀ next ∈ rest.head?, ∀ opener ∈ pending.head?, next.token ≠ opener.closer) :
    ∀ next ∈ rest.head?, step? ⟨false, pending⟩ next = none := by
  rintro ⟨token, position⟩ member
  have stops := ends _ member
  have other := unclosed _ member
  -- The tree would have gone on with an operator or a `?`. So what is pending decides about the
  -- closing tokens only.
  cases token with
  | number digits | openParen => rfl
  | operator op | question => cases stops
  | closeParen | colon =>
      match pending with
      | [] => rfl
      | .parenthesis opened :: outer => simp_all [step?, pendingAfter?, Opener.closer]
      | .question question :: outer => simp_all [step?, pendingAfter?, Opener.closer]

/-- A level reads one operand in outline, which nothing that follows belongs to, or it fails where
the outline is stuck. -/
abbrev KeepsOutline (limits : Limits) (stratum : Stratum) (nesting : Nat) (tokens : List Located)
    (outcome : Except ParseError (Parsed tokens)) : Prop :=
  Ensures outcome (fun parsed => Covers tokens parsed.read parsed.rest ∧ Ends stratum parsed.rest)
    (Faults limits nesting tokens)

/-- The same of the level itself. -/
abbrev LevelKeepsOutline (limits : Limits) (stratum : Stratum) (nesting : Nat)
    (tokens : List Located) : Prop :=
  KeepsOutline limits stratum nesting tokens (treeAt limits stratum nesting tokens).outcome

/-! ### Failures inside a construct -/

/-- A failure after the token that opens what is nested is a failure of the whole. -/
theorem Faults.after_first {next : Located} (faults : Faults limits (nesting + 1) rest error)
    (leads : Leads [next]) : Faults limits nesting (next :: rest) error :=
  faults.after leads (Nat.le_refl _)

/-- A failure of the operand after an operator is a failure of the whole. -/
theorem Covers.faults_operator {op : BinaryOperator} {position inner : Nat}
    (covers : Covers tokens left (⟨.operator op, position⟩ :: others))
    (faults : Faults limits inner others error) (deeper : inner ≤ nesting + 1) :
    Faults limits nesting tokens error := by
  obtain ⟨used, rfl, whole, _⟩ := covers
  rw [List.append_cons]
  refine faults.after (whole.operator op position).leads ?_
  simp only [List.length_append, List.length_cons, List.length_nil]
  omega

/-- A failure of the first branch of a conditional is a failure of the whole. -/
theorem Covers.faults_question {question : Nat}
    (covers : Covers tokens left (⟨.question, question⟩ :: others))
    (faults : Faults limits (nesting + 1) others error) : Faults limits nesting tokens error := by
  obtain ⟨used, rfl, whole, _⟩ := covers
  rw [List.append_cons]
  refine faults.after (fun pending => ⟨_, whole.run?_question question pending⟩) ?_
  simp only [List.length_append, List.length_cons, List.length_nil]
  omega

/-- A failure of the second branch of a conditional is a failure of the whole. -/
theorem Covers.faults_colon {question colon : Nat} {chosen : List Located}
    (covers : Covers tokens left (⟨.question, question⟩ :: chosen))
    (coversTrue : Covers chosen right (⟨.colon, colon⟩ :: others))
    (faults : Faults limits (nesting + 1) others error) : Faults limits nesting tokens error := by
  obtain ⟨used, rfl, whole, _⟩ := covers
  obtain ⟨used', rfl, whole', _⟩ := coversTrue
  have split : used ++ ⟨.question, question⟩ :: (used' ++ ⟨.colon, colon⟩ :: others) =
      ((used ++ [⟨.question, question⟩]) ++ (used' ++ [⟨.colon, colon⟩])) ++ others := by
    simp
  rw [split]
  refine faults.after (whole.colon whole' question colon).leads ?_
  simp only [List.length_append, List.length_cons, List.length_nil]
  omega

/-- A level halts on a token that cannot start an operand. -/
theorem halts_of_fits {next : Located} (wrong : fits true next.token = false) :
    Halts (next :: rest) (.expectedOperand next.token next.position) :=
  fun pending => ⟨[], next :: rest, ⟨true, pending⟩, rfl, rfl, .operand wrong⟩

/-- A level halts where a tree ends and the opener in front of it is not closed. -/
theorem Covers.halts_unclosed {opener : Opener} (covers : Covers tokens read rest)
    (ends : Ends .conditional rest)
    (opens : ∀ pending, run? ⟨true, pending⟩ used = some ⟨true, opener :: pending⟩)
    (unclosed : ∀ next ∈ rest.head?, next.token ≠ opener.closer) :
    Halts (used ++ tokens) opener.unclosed := by
  intro pending
  obtain ⟨more, rfl, whole, _⟩ := covers
  refine ⟨used ++ more, rest, ⟨false, opener :: pending⟩, by simp, ?_,
    .unclosed (step?_eq_none_of_ends ends (by simpa using unclosed))⟩
  rw [run?_append, opens, Option.bind_some, whole]

theorem Covers.halts_unclosedParenthesis (covers : Covers tokens read rest)
    (ends : Ends .conditional rest) (unclosed : ∀ next ∈ rest.head?, next.token ≠ .closeParen)
    (opened : Nat) : Halts (⟨.openParen, opened⟩ :: tokens) (.unclosedParenthesis opened) :=
  have opens (pending : List Opener) :
      run? ⟨true, pending⟩ [⟨.openParen, opened⟩] = some ⟨true, .parenthesis opened :: pending⟩ :=
    rfl
  covers.halts_unclosed ends opens unclosed

theorem Covers.halts_missingColon {question : Nat} {chosen : List Located}
    (covers : Covers tokens left (⟨.question, question⟩ :: chosen))
    (coversTrue : Covers chosen right rest) (ends : Ends .conditional rest)
    (unclosed : ∀ next ∈ rest.head?, next.token ≠ .colon) :
    Halts tokens (.missingColon question) := by
  obtain ⟨used, rfl, whole, _⟩ := covers
  rw [List.append_cons]
  exact coversTrue.halts_unclosed ends (whole.run?_question question) unclosed

/-! ### The levels

Each level keeps to the outline if those levels do that it calls. -/

theorem keepsOutline_primary
    (inner : ∀ inside, inside.length < tokens.length →
      LevelKeepsOutline limits .conditional (nesting + 1) inside)
    (noSign : ∀ next ∈ tokens.head?, sign? next.token = none) :
    LevelKeepsOutline limits .primary nesting tokens := by
  match tokens with
  | [] =>
      rw [LevelKeepsOutline, treeAt]
      exact .inr fun pending => ⟨[], [], ⟨true, pending⟩, rfl, rfl, .ending⟩
  | ⟨.number digits, position⟩ :: rest =>
      rw [LevelKeepsOutline, treeAt]
      refine (covers_number digits position rest).ensures_fold.outcome_bind ?_
      rintro _ rfl
      exact ⟨covers_number digits position rest, fun _ _ => rfl⟩
  | ⟨.openParen, opened⟩ :: inside =>
      rw [LevelKeepsOutline, treeAt]
      refine (ensures_deeper (by simp)).outcome_bind ?_
      rintro _ rfl
      refine ((inner inside (by simp)).imp_failure fun _ faults =>
        faults.after_first (leads_openParen opened)).outcome_bind ?_
      rintro ⟨read, rest, shorter⟩ ⟨covers, ends⟩
      split
      · rename_i same
        cases same
        exact ⟨covers.group, fun _ _ => rfl⟩
      · rename_i unclosed
        refine .inr (covers.halts_unclosedParenthesis ends ?_ opened)
        rintro ⟨_, position⟩ member rfl
        obtain ⟨later, rfl⟩ := List.head?_eq_some_iff.mp member
        exact unclosed _ _ _ _ rfl
  | ⟨.operator op, position⟩ :: rest =>
      have noSign : sign? (.operator op) = none := noSign _ rfl
      rw [LevelKeepsOutline, treeAt]
      · exact .inr (halts_of_fits (by simp [fits, noSign]))
      all_goals simp
  | ⟨.question, position⟩ :: rest | ⟨.colon, position⟩ :: rest | ⟨.closeParen, position⟩ :: rest =>
      rw [LevelKeepsOutline, treeAt]
      · exact .inr (halts_of_fits rfl)
      all_goals simp

theorem keepsOutline_signed
    (alone : (∀ next ∈ tokens.head?, sign? next.token = none) →
      LevelKeepsOutline limits .primary nesting tokens)
    (operand : ∀ others, others.length < tokens.length →
      LevelKeepsOutline limits .signed (nesting + 1) others) :
    LevelKeepsOutline limits .signed nesting tokens := by
  match tokens with
  | [] =>
      rw [LevelKeepsOutline, treeAt]
      exact (alone (by simp)).imp_result fun _ kept => ⟨kept.1, fun _ _ => rfl⟩
  | ⟨token, position⟩ :: rest =>
      rw [LevelKeepsOutline, treeAt]
      split
      · rename_i op isSign
        refine (ensures_deeper (by simp)).outcome_bind ?_
        rintro _ rfl
        refine ((operand rest (by simp)).imp_failure fun _ faults =>
          faults.after_first (resumes_of_sign? isSign position).leads).outcome_bind ?_
        rintro ⟨read, later, shorter⟩ ⟨covers, _⟩
        refine (covers.sign isSign position _).ensures_fold.outcome_bind ?_
        rintro _ rfl
        exact ⟨covers.sign isSign position _, fun _ _ => rfl⟩
      · rename_i noSign
        exact (alone (by simpa using noSign)).imp_result fun _ kept => ⟨kept.1, fun _ _ => rfl⟩

theorem keepsOutline_infixed_zero (base : LevelKeepsOutline limits .signed nesting tokens)
    (exponent : ∀ others, others.length < tokens.length →
      LevelKeepsOutline limits (.infixed 0) (nesting + 1) others) :
    LevelKeepsOutline limits (.infixed 0) nesting tokens := by
  rw [LevelKeepsOutline, treeAt]
  refine base.outcome_bind ?_
  rintro ⟨read, middle, shorter⟩ ⟨covers, _⟩
  split
  · rename_i position others _ same
    cases same
    have shorterOthers : others.length < tokens.length := Nat.lt_of_succ_lt shorter
    refine (ensures_deeper (by omega)).outcome_bind ?_
    rintro _ rfl
    refine ((exponent others shorterOthers).imp_failure fun _ faults =>
      covers.faults_operator faults (Nat.le_refl _)).outcome_bind ?_
    rintro ⟨exponent, later, _⟩ ⟨coversExponent, endsExponent⟩
    refine (covers.binary coversExponent _).ensures_fold.outcome_bind ?_
    rintro _ rfl
    exact ⟨covers.binary coversExponent _, endsExponent⟩
  · rename_i alone
    refine ⟨covers, ?_⟩
    rintro ⟨token, position⟩ member
    obtain ⟨later, rfl⟩ := List.head?_eq_some_iff.mp member
    cases token with
    | operator op =>
        cases op with
        | power => exact absurd rfl (alone _ _ _ _)
        | _ => rfl
    | _ => rfl

/-- A chain keeps to the outline from what stands to its left. -/
theorem keepsOutline_continueFrom {left : Parsed tokens}
    (operands : ∀ others, others.length < tokens.length →
      LevelKeepsOutline limits (.infixed rank) nesting others)
    (covers : Covers tokens left.read left.rest) (ends : Ends (.infixed rank) left.rest) :
    KeepsOutline limits (.infixed (rank + 1)) nesting tokens
      (continueFrom limits rank nesting left).outcome := by
  -- Induction on what is left to read. The chain so far covers the tokens in front of it.
  induction length : left.rest.length using Nat.strongRecOn generalizing left with
  | ind size ih =>
      obtain ⟨leftRead, middle, shorter⟩ := left
      rw [continueFrom.eq_def]
      split
      · rename_i op position others shorterOthers same
        cases same
        simp only [List.length_cons] at shorter length
        split
        · refine ((operands others (by omega)).imp_failure fun _ faults =>
            covers.faults_operator faults (by omega)).outcome_bind ?_
          rintro ⟨right, later, shorterLater⟩ ⟨coversRight, endsRight⟩
          refine (covers.binary coversRight _).ensures_fold.outcome_bind ?_
          rintro _ rfl
          exact ih _ (by simp only at shorterLater ⊢; omega) (covers.binary coversRight _)
            endsRight rfl
        · rename_i other
          refine ⟨covers, ?_⟩
          have stops := ends _ rfl
          rintro _ ⟨⟩
          simp only [readsOn, decide_eq_false_iff_not] at stops ⊢
          omega
      · rename_i alone
        refine ⟨covers, fun next member => ?_⟩
        obtain ⟨later, rfl⟩ := List.head?_eq_some_iff.mp member
        obtain ⟨token, position⟩ := next
        cases token with
        | operator op => exact absurd rfl (alone _ _ _ _ _)
        | _ => rfl

theorem keepsOutline_infixed_succ (first : LevelKeepsOutline limits (.infixed rank) nesting tokens)
    (operands : ∀ others, others.length < tokens.length →
      LevelKeepsOutline limits (.infixed rank) nesting others) :
    LevelKeepsOutline limits (.infixed (rank + 1)) nesting tokens := by
  rw [LevelKeepsOutline, treeAt]
  refine first.outcome_bind ?_
  rintro left ⟨covers, ends⟩
  exact keepsOutline_continueFrom operands covers ends

theorem keepsOutline_conditional
    (asked : LevelKeepsOutline limits (.infixed BinaryOperator.loosestRank) nesting tokens)
    (branches : ∀ others, others.length < tokens.length →
      LevelKeepsOutline limits .conditional (nesting + 1) others) :
    LevelKeepsOutline limits .conditional nesting tokens := by
  rw [LevelKeepsOutline, treeAt]
  refine asked.outcome_bind ?_
  rintro ⟨condition, middle, shorter⟩ ⟨covers, ends⟩
  split
  · rename_i question chosen _ same
    cases same
    have shorterChosen : chosen.length < tokens.length := Nat.lt_of_succ_lt shorter
    refine (ensures_deeper (by omega)).outcome_bind ?_
    rintro _ rfl
    refine ((branches chosen shorterChosen).imp_failure fun _ faults =>
      covers.faults_question faults).outcome_bind ?_
    rintro ⟨whenTrue, middle, shorterTrue⟩ ⟨coversTrue, endsTrue⟩
    split
    · rename_i colon otherwise _ same
      cases same
      have shorterOtherwise : otherwise.length < chosen.length := Nat.lt_of_succ_lt shorterTrue
      refine ((branches otherwise (by omega)).imp_failure fun _ faults =>
        covers.faults_colon coversTrue faults).outcome_bind ?_
      rintro ⟨whenFalse, rest, _⟩ ⟨coversFalse, endsFalse⟩
      refine (covers.conditional coversTrue coversFalse _).ensures_fold.outcome_bind ?_
      rintro _ rfl
      exact ⟨covers.conditional coversTrue coversFalse _, endsFalse⟩
    · rename_i unclosed
      refine .inr (covers.halts_missingColon coversTrue endsTrue ?_)
      rintro ⟨_, position⟩ member rfl
      obtain ⟨later, rfl⟩ := List.head?_eq_some_iff.mp member
      exact unclosed _ _ _ _ rfl
  · rename_i alone
    refine ⟨covers, ?_⟩
    rintro ⟨token, position⟩ member
    have stops := ends _ member
    obtain ⟨later, rfl⟩ := List.head?_eq_some_iff.mp member
    cases token with
    | operator op =>
        have := op.rank_le_loosestRank
        simp only [readsOn, decide_eq_false_iff_not] at stops
        omega
    | question => exact absurd rfl (alone _ _ _ _)
    | _ => rfl

/-- **The levels keep to the outline.** A primary is only read where no sign stands. -/
theorem keepsOutline_treeAt (limits : Limits) (stratum : Stratum) (nesting : Nat)
    (tokens : List Located)
    (unsigned : stratum = .primary → ∀ next ∈ tokens.head?, sign? next.token = none) :
    LevelKeepsOutline limits stratum nesting tokens := by
  -- The condition on a primary is part of what is proved by induction. Only a signed operand calls
  -- a primary, and it looks for a sign before it does.
  refine induct_levels (motive := fun stratum nesting tokens =>
    (stratum = .primary → ∀ next ∈ tokens.head?, sign? next.token = none) →
      LevelKeepsOutline limits stratum nesting tokens)
    ?primary ?signed ?power ?chain ?conditional stratum nesting tokens unsigned
  case primary =>
    intro nesting tokens inner unsigned
    exact keepsOutline_primary (fun _ shorter => inner _ shorter (by simp)) (unsigned rfl)
  case signed =>
    intro nesting tokens alone operand _
    exact keepsOutline_signed (fun noSign => alone fun _ => noSign)
      fun _ shorter => operand _ shorter (by simp)
  case power =>
    intro nesting tokens base exponent _
    exact keepsOutline_infixed_zero (base (by simp)) fun _ shorter => exponent _ shorter (by simp)
  case chain =>
    intro rank nesting tokens first operands _
    exact keepsOutline_infixed_succ (first (by simp)) fun _ shorter => operands _ shorter (by simp)
  case conditional =>
    intro nesting tokens asked branches _
    exact keepsOutline_conditional (asked (by simp)) fun _ shorter => branches _ shorter (by simp)

end Parse

end Calculator
