import Calculator.Proofs.Expr.Acceptance

/-!
# Reading tokens with a cursor

`treeAt` is given the tokens and the nesting, and returns the tokens that it leaves. Here the same
levels move a cursor that holds both: reading a token drops it, a construct raises the nesting when
it opens, and lowers it when its inside is done, also if the inside fails. Calls and the rounds of a
loop use up fuel, and a session that runs out of it has not ended and has no outcome.

A session of a level does end, from wherever it starts (`session_keeps_nesting`). The fuel that it
takes depends on the number of tokens, and not on the limits or the nesting. The session has the
outcome of `treeAt`, it leaves the nesting as it was, and the nesting stays within the limit all the
while. This is shown for a level from the levels that it calls, with the two computations side by
side (`Keeps`).
-/

set_option autoImplicit false

namespace Calculator.Parse

/-! ## Sessions -/

/-- Where the reading of tokens stands. -/
structure Cursor where
  /-- The tokens that are left. -/
  rest : List Located
  /-- How many constructs are open. -/
  nesting : Nat
  /-- How many constructs have been open at once, at most. -/
  peak : Nat
  nesting_le_peak : nesting ≤ peak

namespace Cursor

/-- A cursor that has not moved yet. -/
def start (tokens : List Located) (nesting : Nat) : Cursor :=
  ⟨tokens, nesting, nesting, Nat.le_refl nesting⟩

/-- The cursor after the next token, if there is one. -/
def advance (cursor : Cursor) : Cursor :=
  { cursor with rest := cursor.rest.tail }

/-- The cursor after a construct has opened. -/
def deepen (cursor : Cursor) : Cursor :=
  ⟨cursor.rest, cursor.nesting + 1, max cursor.peak (cursor.nesting + 1), Nat.le_max_right ..⟩

/-- The cursor after a construct has closed. -/
def surface (cursor : Cursor) : Cursor :=
  ⟨cursor.rest, cursor.nesting - 1, cursor.peak,
    Nat.le_trans (Nat.sub_le ..) cursor.nesting_le_peak⟩

end Cursor

/-- A computation that moves a cursor and then has a result or fails, unless it runs out of fuel. -/
abbrev Session := ExceptT ParseError (StateT Cursor Option)

namespace Session

variable {α β : Type}

/-- The outcome of a session and the cursor after it, if the fuel lasts. -/
def runFrom (cursor : Cursor) (session : Session α) : Option (Except ParseError α × Cursor) :=
  session.run.run cursor

/-- The next token, which is left where it is. -/
def peek : Session (Option Located) := do
  return (← get).rest.head?

/-- The next token, which is read. -/
def next : Session (Option Located) := do
  let cursor ← get
  set cursor.advance
  return cursor.rest.head?

/-- Opens a construct, if the limit allows one more. -/
def opens (limits : Limits) : Session Unit := do
  let cursor ← get
  if limits.maxNesting ≤ cursor.nesting then throw (.nestingTooDeep limits.maxNesting)
  else set cursor.deepen

/-- Closes a construct, whatever the outcome of its inside. -/
def closes (outcome : Except ParseError α) : StateT Cursor Option (Except ParseError α) := do
  modify Cursor.surface
  return outcome

/-- The inside of a construct. -/
def nested (limits : Limits) (inside : Session α) : Session α := do
  opens limits
  ExceptT.mk (inside.run >>= closes)

/-- What can be computed without moving the cursor. -/
def ofTraced (computation : Traced ParseError α) : Session α :=
  ExceptT.mk (pure computation.outcome)

/-- There is no fuel left. -/
def exhausted : Session α :=
  ExceptT.mk fun _ => none

/-- Reads the operators of rank `rank + 1` that follow a tree, each with its right operand. -/
def continueFrom (limits : Limits) (rank : Nat) (operand : Session Measured) :
    Nat → Measured → Session Measured
  | 0, _ => exhausted
  | fuel + 1, left => do
      match ← peek with
      | some ⟨.operator op, _⟩ =>
          if op.rank = rank + 1 then
            let _ ← next
            let right ← operand
            let folded ← ofTraced (foldBinary limits op left right)
            continueFrom limits rank operand fuel folded
          else return left
      | _ => return left

/-- Reads a tree of a level. -/
def treeAt (limits : Limits) : Nat → Stratum → Session Measured
  | 0, _ => exhausted
  | fuel + 1, .conditional => do
      let condition ← treeAt limits fuel (.infixed BinaryOperator.loosestRank)
      match ← peek with
      | some ⟨.question, question⟩ =>
          let _ ← next
          let whenTrue ← nested limits (treeAt limits fuel .conditional)
          match ← next with
          | some ⟨.colon, _⟩ =>
              let whenFalse ← nested limits (treeAt limits fuel .conditional)
              ofTraced (foldConditional limits condition whenTrue whenFalse)
          | _ => throw (.missingColon question)
      | _ => return condition
  | fuel + 1, .infixed (rank + 1) => do
      let left ← treeAt limits fuel (.infixed rank)
      continueFrom limits rank (treeAt limits fuel (.infixed rank)) fuel left
  | fuel + 1, .infixed 0 => do
      let base ← treeAt limits fuel .signed
      match ← peek with
      | some ⟨.operator .power, _⟩ =>
          let _ ← next
          let exponent ← nested limits (treeAt limits fuel (.infixed 0))
          ofTraced (foldBinary limits .power base exponent)
      | _ => return base
  | fuel + 1, .signed => do
      match (← peek).bind fun next => sign? next.token with
      | some op =>
          let _ ← next
          let operand ← nested limits (treeAt limits fuel .signed)
          ofTraced (foldUnary limits op operand)
      | none => treeAt limits fuel .primary
  | fuel + 1, .primary => do
      match ← next with
      | some ⟨.number digits, _⟩ => ofTraced (foldLiteral limits digits)
      | some ⟨.openParen, opened⟩ =>
          let inner ← nested limits (treeAt limits fuel .conditional)
          match ← next with
          | some ⟨.closeParen, _⟩ => return inner
          | _ => throw (.unclosedParenthesis opened)
      | some ⟨found, position⟩ => throw (.expectedOperand found position)
      | none => throw .unexpectedEnd

/-- Enough fuel for a level, given the number of tokens. A call goes down a level or is given fewer
tokens, and then it starts with the loosest level at most. -/
def fuelFor (stratum : Stratum) (count : Nat) : Nat :=
  (height .conditional + 1) * count + height stratum + 1

/-! ## Running a session -/

section Running

variable {cursor after : Cursor}

theorem runFrom_bind_of_ok {session : Session α} {a : α}
    (ran : runFrom cursor session = some (.ok a, after)) (later : α → Session β) :
    runFrom cursor (session >>= later) = runFrom after (later a) := by
  unfold runFrom at ran ⊢
  rw [ExceptT.run_bind, StateT.run_bind, ran]
  rfl

theorem runFrom_bind_of_error {session : Session α} {error : ParseError}
    (ran : runFrom cursor session = some (.error error, after)) (later : α → Session β) :
    runFrom cursor (session >>= later) = some (.error error, after) := by
  unfold runFrom at ran ⊢
  rw [ExceptT.run_bind, StateT.run_bind, ran]
  rfl

@[simp] theorem runFrom_ofTraced (computation : Traced ParseError α) :
    runFrom cursor (ofTraced computation) = some (computation.outcome, cursor) := rfl

/-- A construct for which the limit leaves no room does not open. -/
theorem runFrom_nested_of_le {limits : Limits} (full : limits.maxNesting ≤ cursor.nesting)
    (inside : Session α) :
    runFrom cursor (nested limits inside) =
      some (.error (.nestingTooDeep limits.maxNesting), cursor) := by
  refine runFrom_bind_of_error ?_ _
  change runFrom cursor (if limits.maxNesting ≤ cursor.nesting then _ else _) = _
  rw [if_pos full]
  rfl

/-- A construct ends when its inside does, and then it is closed. -/
theorem runFrom_nested_of_lt {limits : Limits} (room : cursor.nesting < limits.maxNesting)
    {inside : Session α} {outcome : Except ParseError α}
    (ran : runFrom cursor.deepen inside = some (outcome, after)) :
    runFrom cursor (nested limits inside) = some (outcome, after.surface) := by
  have opened : runFrom cursor (opens limits) = some (.ok (), cursor.deepen) := by
    change runFrom cursor (if limits.maxNesting ≤ cursor.nesting then _ else _) = _
    rw [if_neg (Nat.not_le.mpr room)]
    rfl
  rw [nested, runFrom_bind_of_ok opened]
  change StateT.run (inside.run >>= closes) cursor.deepen = _
  rw [StateT.run_bind]
  change runFrom cursor.deepen inside >>= _ = _
  rw [ran]
  rfl

end Running

/-! ## Sessions and computations side by side -/

variable {limits : Limits} {nesting rank : Nat} {tokens : List Located} {cursor : Cursor}

/-- From the cursor the session ends as the computation does, with results that are related given
the tokens that are left. It keeps the nesting, and does not exceed the limit meanwhile. -/
def Keeps (limits : Limits) (cursor : Cursor) (results : α → β → List Located → Prop)
    (computation : Traced ParseError α) (session : Session β) : Prop :=
  ∃ outcome after, runFrom cursor session = some (outcome, after) ∧
    after.nesting = cursor.nesting ∧ after.peak ≤ limits.maxNesting ∧
    Corresponds (fun a b => results a b after.rest) Eq computation.outcome outcome

namespace Keeps

variable {γ δ : Type} {results : α → β → List Located → Prop}
  {resultsNext : γ → δ → List Located → Prop} {computation : Traced ParseError α}
  {session : Session β}

theorem pure {a : α} {b : β} (within : cursor.peak ≤ limits.maxNesting)
    (related : results a b cursor.rest) :
    Keeps limits cursor results (Pure.pure a) (Pure.pure b) :=
  ⟨_, _, rfl, rfl, within, .ok related⟩

theorem fail {error : ParseError} (within : cursor.peak ≤ limits.maxNesting) :
    Keeps limits cursor results (.fail error) (throw error) :=
  ⟨_, _, rfl, rfl, within, .error rfl⟩

/-- One after another. -/
theorem bind {later : α → Traced ParseError γ} {later' : β → Session δ}
    (first : Keeps limits cursor results computation session)
    (second : ∀ a b after, after.nesting = cursor.nesting → after.peak ≤ limits.maxNesting →
      results a b after.rest → Keeps limits after resultsNext (later a) (later' b)) :
    Keeps limits cursor resultsNext (computation >>= later) (session >>= later') := by
  obtain ⟨outcome, after, ran, kept, within, same⟩ := first
  generalize computed : computation.outcome = computedOutcome at same
  cases same with
  | ok related =>
      obtain ⟨outcome, last, ranNext, keptNext, withinNext, same⟩ :=
        second _ _ after kept within related
      refine ⟨outcome, last, ?_, keptNext.trans kept, withinNext, ?_⟩
      · rw [runFrom_bind_of_ok ran, ranNext]
      · rw [Traced.outcome_bind_of_eq_ok computed]
        exact same
  | error related =>
      refine ⟨_, after, runFrom_bind_of_error ran later', kept, within, ?_⟩
      rw [Traced.outcome_bind, computed]
      exact .error related

/-- The inside of a construct, where the limit leaves room for it. -/
theorem nested (room : cursor.nesting < limits.maxNesting)
    (inside : Keeps limits cursor.deepen results computation session) :
    Keeps limits cursor results computation (Session.nested limits session) := by
  obtain ⟨outcome, after, ran, kept, within, same⟩ := inside
  refine ⟨outcome, after.surface, runFrom_nested_of_lt room ran, ?_, within, same⟩
  simp [Cursor.surface, Cursor.deepen, kept]

/-- A construct and what follows it, if that holds where the limit leaves room. -/
theorem deeper_bind {inside : Session α} {first : Nat → Traced ParseError γ}
    {later : α → Session δ} (within : cursor.peak ≤ limits.maxNesting)
    (opened : cursor.nesting < limits.maxNesting →
      Keeps limits cursor resultsNext (first (cursor.nesting + 1))
        (Session.nested limits inside >>= later)) :
    Keeps limits cursor resultsNext (deeper limits cursor.nesting >>= first)
      (Session.nested limits inside >>= later) := by
  by_cases room : cursor.nesting < limits.maxNesting
  · have entered : deeper limits cursor.nesting = Pure.pure (cursor.nesting + 1) :=
      if_neg (Nat.not_le.mpr room)
    rw [entered, pure_bind]
    exact opened room
  · have full := Nat.not_lt.mp room
    have refused : deeper limits cursor.nesting = .fail (.nestingTooDeep limits.maxNesting) :=
      if_pos full
    refine ⟨_, cursor, runFrom_bind_of_error (runFrom_nested_of_le full inside) later, rfl, within,
      ?_⟩
    rw [refused]
    exact .error rfl

/-- Looking at the next token first. -/
theorem peek_bind {later : Option Located → Session β}
    (keeps : Keeps limits cursor results computation (later cursor.rest.head?)) :
    Keeps limits cursor results computation (peek >>= later) := keeps

/-- Reading the next token first. -/
theorem next_bind {later : Option Located → Session β}
    (keeps : Keeps limits cursor.advance results computation (later cursor.rest.head?)) :
    Keeps limits cursor results computation (next >>= later) := keeps

/-- What follows what does not move the cursor. -/
theorem ofTraced_bind {later : α → Traced ParseError γ} {later' : α → Session δ}
    (within : cursor.peak ≤ limits.maxNesting)
    (second : ∀ a, Keeps limits cursor resultsNext (later a) (later' a)) :
    Keeps limits cursor resultsNext (computation >>= later)
      (ofTraced computation >>= later') := by
  cases computed : computation.outcome with
  | ok a =>
      obtain ⟨outcome, after, ran, kept, bounded, same⟩ := second a
      refine ⟨outcome, after, ?_, kept, bounded, ?_⟩
      · have known : runFrom cursor (ofTraced computation) = some (.ok a, cursor) := by
          rw [runFrom_ofTraced, computed]
        rw [runFrom_bind_of_ok known, ran]
      · rw [Traced.outcome_bind_of_eq_ok computed]
        exact same
  | error error =>
      refine ⟨_, cursor, runFrom_bind_of_error (by rw [runFrom_ofTraced, computed]) later', rfl,
        within, ?_⟩
      rw [Traced.outcome_bind, computed]
      exact .error rfl

/-- A tree that is put together last, with what is left after it. -/
theorem finish {put : α → γ} {results : γ → α → List Located → Prop}
    (within : cursor.peak ≤ limits.maxNesting) (related : ∀ a, results (put a) a cursor.rest) :
    Keeps limits cursor results (computation >>= fun a => Pure.pure (put a))
      (ofTraced computation) := by
  rw [← bind_pure (ofTraced computation)]
  exact ofTraced_bind within fun a => pure within (related a)

end Keeps

/-! ## The levels -/

variable {fuel : Nat}

theorem fuelFor_le_fuelFor (stratum : Stratum) {count less : Nat} (fewer : less ≤ count) :
    fuelFor stratum less ≤ fuelFor stratum count := by
  have scaled := Nat.mul_le_mul_left (height .conditional + 1) fewer
  unfold fuelFor
  omega

theorem lt_fuelFor (stratum : Stratum) (count : Nat) : count < fuelFor stratum count := by
  unfold fuelFor
  rw [Nat.succ_mul]
  omega

theorem enough_of_tighter {stratum tighter : Stratum} {count less : Nat}
    (enough : fuelFor stratum count ≤ fuel + 1) (lower : height tighter < height stratum)
    (fewer : less ≤ count) : fuelFor tighter less ≤ fuel := by
  have scaled := Nat.mul_le_mul_left (height .conditional + 1) fewer
  unfold fuelFor at *
  omega

theorem enough_of_fewer {stratum looser : Stratum} {count less : Nat}
    (enough : fuelFor stratum count ≤ fuel + 1) (bounded : height looser ≤ height .conditional)
    (fewer : less < count) : fuelFor looser less ≤ fuel := by
  have scaled := Nat.mul_le_mul_left (height .conditional + 1) fewer
  unfold fuelFor at *
  rw [Nat.mul_succ] at scaled
  omega

/-- A level with a cursor does what it does without. -/
abbrev LevelKeeps (limits : Limits) (stratum : Stratum) (nesting : Nat) (tokens : List Located) :
    Prop :=
  ∀ fuel, fuelFor stratum tokens.length ≤ fuel → ∀ peak (le : nesting ≤ peak),
    peak ≤ limits.maxNesting →
      Keeps limits ⟨tokens, nesting, peak, le⟩
        (fun parsed read rest => read = parsed.read ∧ rest = parsed.rest)
        (Parse.treeAt limits stratum nesting tokens) (treeAt limits fuel stratum)

theorem keeps_primary
    (inner : ∀ inside : List Located, inside.length < tokens.length →
      LevelKeeps limits .conditional (nesting + 1) inside) :
    LevelKeeps limits .primary nesting tokens := by
  rintro (_ | fuel) enough peak le within
  · exact absurd enough (by simp [fuelFor])
  rw [treeAt]
  refine Keeps.next_bind ?_
  match tokens with
  | [] =>
      rw [Parse.treeAt]
      exact .fail within
  | ⟨.number digits, position⟩ :: rest =>
      rw [Parse.treeAt]
      exact .finish within (fun _ => ⟨rfl, rfl⟩)
  | ⟨.openParen, opened⟩ :: inside =>
      rw [Parse.treeAt]
      refine Keeps.deeper_bind within fun room => ?_
      have shorter := Nat.lt_succ_self inside.length
      refine Keeps.bind (.nested room (inner inside shorter fuel
        (enough_of_fewer enough (Nat.le_refl _) shorter) _ _ (Nat.max_le.mpr ⟨within, room⟩))) ?_
      rintro ⟨_, _, _⟩ read ⟨rest, _, _, _⟩ _ within ⟨rfl, rfl⟩
      refine Keeps.next_bind ?_
      cases rest with
      | nil => exact .fail within
      | cons next others =>
          obtain ⟨token, position⟩ := next
          cases token with
          | closeParen => exact .pure within ⟨rfl, rfl⟩
          | _ => exact .fail within
  | ⟨.operator op, position⟩ :: rest | ⟨.question, position⟩ :: rest
  | ⟨.colon, position⟩ :: rest | ⟨.closeParen, position⟩ :: rest =>
      rw [Parse.treeAt]
      · exact .fail within
      all_goals simp

theorem keeps_signed (alone : LevelKeeps limits .primary nesting tokens)
    (operand : ∀ others : List Located, others.length < tokens.length →
      LevelKeeps limits .signed (nesting + 1) others) :
    LevelKeeps limits .signed nesting tokens := by
  rintro (_ | fuel) enough peak le within
  · exact absurd enough (by simp [fuelFor])
  have enoughAlone : fuelFor .primary tokens.length ≤ fuel :=
    enough_of_tighter enough (by decide) (Nat.le_refl _)
  rw [treeAt]
  refine Keeps.peek_bind ?_
  match tokens with
  | [] =>
      rw [Parse.treeAt]
      exact alone fuel enoughAlone peak le within
  | ⟨token, position⟩ :: rest =>
      rw [Parse.treeAt]
      dsimp only [List.head?_cons, Option.bind_some]
      cases sign? token with
      | none => exact alone fuel enoughAlone peak le within
      | some op =>
          have shorter := Nat.lt_succ_self rest.length
          refine Keeps.next_bind (Keeps.deeper_bind within fun room => ?_)
          refine Keeps.bind (.nested room (operand rest shorter fuel
            (enough_of_fewer enough (by decide) shorter) _ _ (Nat.max_le.mpr ⟨within, room⟩))) ?_
          rintro ⟨_, _, _⟩ read ⟨rest, _, _, _⟩ _ within ⟨rfl, rfl⟩
          exact .finish within (fun _ => ⟨rfl, rfl⟩)

theorem keeps_infixed_zero (base : LevelKeeps limits .signed nesting tokens)
    (exponent : ∀ others : List Located, others.length < tokens.length →
      LevelKeeps limits (.infixed 0) (nesting + 1) others) :
    LevelKeeps limits (.infixed 0) nesting tokens := by
  rintro (_ | fuel) enough peak le within
  · exact absurd enough (by simp [fuelFor])
  rw [treeAt, Parse.treeAt]
  refine (base fuel (enough_of_tighter enough (by decide) (Nat.le_refl _)) peak le within).bind ?_
  rintro ⟨_, _, shorter⟩ read ⟨middle, _, _, _⟩ rfl within ⟨rfl, rfl⟩
  refine Keeps.peek_bind ?_
  cases middle with
  | nil => exact .pure within ⟨rfl, rfl⟩
  | cons next others =>
      obtain ⟨token, position⟩ := next
      have shorterOthers : others.length < tokens.length := Nat.lt_of_succ_lt shorter
      cases token with
      | operator op =>
          cases op with
          | power =>
              refine Keeps.next_bind (Keeps.deeper_bind within fun room => ?_)
              refine Keeps.bind (.nested room (exponent others shorterOthers fuel
                (enough_of_fewer enough (by decide) shorterOthers) _ _
                (Nat.max_le.mpr ⟨within, room⟩))) ?_
              rintro ⟨_, _, _⟩ read ⟨rest, _, _, _⟩ _ within ⟨rfl, rfl⟩
              exact .finish within (fun _ => ⟨rfl, rfl⟩)
          | _ => exact .pure within ⟨rfl, rfl⟩
      | _ => exact .pure within ⟨rfl, rfl⟩

/-- A chain goes on with a cursor as it does without, from what stands to its left. Each round of
the loop reads a token, so there are fewer rounds than tokens. -/
theorem keeps_continueFrom {operandFuel : Nat}
    (enough : fuelFor (.infixed rank) tokens.length ≤ operandFuel)
    (operands : ∀ others : List Located, others.length < tokens.length →
      LevelKeeps limits (.infixed rank) nesting others)
    (left : Parsed tokens) (rounds : left.rest.length < fuel) (peak : Nat) (le : nesting ≤ peak)
    (within : peak ≤ limits.maxNesting) :
    Keeps limits ⟨left.rest, nesting, peak, le⟩
      (fun parsed read rest => read = parsed.read ∧ rest = parsed.rest)
      (Parse.continueFrom limits rank nesting left)
      (continueFrom limits rank (treeAt limits operandFuel (.infixed rank)) fuel left.read) := by
  induction fuel generalizing left peak with
  | zero => exact absurd rounds (Nat.not_lt_zero _)
  | succ fuel ih =>
      obtain ⟨leftRead, middle, shorter⟩ := left
      rw [continueFrom, Parse.continueFrom.eq_def]
      refine Keeps.peek_bind ?_
      cases middle with
      | nil => exact .pure within ⟨rfl, rfl⟩
      | cons next others =>
          obtain ⟨token, position⟩ := next
          cases token with
          | operator op =>
              dsimp only [List.head?_cons]
              split
              · refine Keeps.next_bind ?_
                have shorter : others.length < tokens.length := Nat.lt_of_succ_lt shorter
                have enough : fuelFor (.infixed rank) others.length ≤ operandFuel :=
                  Nat.le_trans (fuelFor_le_fuelFor _ (Nat.le_of_lt shorter)) enough
                refine (operands others shorter operandFuel enough peak le within).bind ?_
                rintro ⟨_, _, shorterLater⟩ right ⟨later, _, _, _⟩ rfl within ⟨rfl, rfl⟩
                refine Keeps.ofTraced_bind within fun folded => ?_
                have rounds : later.length < fuel :=
                  Nat.lt_of_lt_of_le shorterLater (Nat.le_of_lt_succ (Nat.lt_of_succ_lt rounds))
                exact ih ⟨folded, later, _⟩ rounds _ _ within
              · exact .pure within ⟨rfl, rfl⟩
          | _ => exact .pure within ⟨rfl, rfl⟩

theorem keeps_infixed_succ (first : LevelKeeps limits (.infixed rank) nesting tokens)
    (operands : ∀ others : List Located, others.length < tokens.length →
      LevelKeeps limits (.infixed rank) nesting others) :
    LevelKeeps limits (.infixed (rank + 1)) nesting tokens := by
  rintro (_ | fuel) enough peak le within
  · exact absurd enough (by simp [fuelFor])
  have enoughFirst : fuelFor (.infixed rank) tokens.length ≤ fuel :=
    enough_of_tighter enough (Nat.lt_succ_self _) (Nat.le_refl _)
  rw [treeAt, Parse.treeAt]
  refine (first fuel enoughFirst peak le within).bind ?_
  rintro left _ ⟨_, _, _, _⟩ rfl within ⟨rfl, rfl⟩
  have rounds : left.rest.length < fuel :=
    Nat.lt_of_lt_of_le (Nat.lt_trans left.shorter (lt_fuelFor _ _)) enoughFirst
  exact keeps_continueFrom enoughFirst operands left rounds _ _ within

theorem keeps_conditional
    (asked : LevelKeeps limits (.infixed BinaryOperator.loosestRank) nesting tokens)
    (branches : ∀ others : List Located, others.length < tokens.length →
      LevelKeeps limits .conditional (nesting + 1) others) :
    LevelKeeps limits .conditional nesting tokens := by
  rintro (_ | fuel) enough peak le within
  · exact absurd enough (by simp [fuelFor])
  rw [treeAt, Parse.treeAt]
  refine (asked fuel (enough_of_tighter enough (by decide) (Nat.le_refl _)) peak le within).bind ?_
  rintro ⟨_, _, shorter⟩ condition ⟨middle, _, _, _⟩ rfl within ⟨rfl, rfl⟩
  refine Keeps.peek_bind ?_
  cases middle with
  | nil => exact .pure within ⟨rfl, rfl⟩
  | cons next chosen =>
      obtain ⟨token, question⟩ := next
      have shorterChosen : chosen.length < tokens.length := Nat.lt_of_succ_lt shorter
      cases token with
      | question =>
          refine Keeps.next_bind (Keeps.deeper_bind within fun room => ?_)
          refine Keeps.bind (.nested room (branches chosen shorterChosen fuel
            (enough_of_fewer enough (Nat.le_refl _) shorterChosen) _ _
            (Nat.max_le.mpr ⟨within, room⟩))) ?_
          rintro ⟨_, _, shorterTrue⟩ whenTrue ⟨middle, _, _, _⟩ rfl within ⟨rfl, rfl⟩
          refine Keeps.next_bind ?_
          cases middle with
          | nil => exact .fail within
          | cons next otherwise =>
              obtain ⟨token, colon⟩ := next
              have shorterOtherwise : otherwise.length < tokens.length :=
                Nat.lt_trans (Nat.lt_of_succ_lt shorterTrue) shorterChosen
              cases token with
              | colon =>
                  refine Keeps.bind (.nested room (branches otherwise shorterOtherwise fuel
                    (enough_of_fewer enough (Nat.le_refl _) shorterOtherwise) _ _
                    (Nat.max_le.mpr ⟨within, room⟩))) ?_
                  rintro ⟨_, _, _⟩ whenFalse ⟨rest, _, _, _⟩ _ within ⟨rfl, rfl⟩
                  exact .finish within (fun _ => ⟨rfl, rfl⟩)
              | _ => exact .fail within
      | _ => exact .pure within ⟨rfl, rfl⟩

/-- **Every level does with a cursor what it does without.** -/
theorem keeps_treeAt (limits : Limits) (stratum : Stratum) (nesting : Nat) (tokens : List Located) :
    LevelKeeps limits stratum nesting tokens :=
  induct_levels (fun _ _ => keeps_primary) (fun _ _ => keeps_signed)
    (fun _ _ => keeps_infixed_zero) (fun _ _ _ => keeps_infixed_succ)
    (fun _ _ => keeps_conditional) stratum nesting tokens

end Session

/-- **The nesting is kept, and a session of a level ends.** Start a level anywhere in the tokens and
with any nesting that the limit allows. With fuel for the number of tokens the session ends, for all
limits, and it has the outcome of `treeAt`. Whether that is a tree or a failure, the nesting is what
it was, and no more constructs than the limit allows were open on the way. If it is a tree, then at
least one token has been read for it and the others are left, and the depth that comes with it is
its depth, which the limit allows. -/
theorem session_keeps_nesting (limits : Limits) (stratum : Stratum) (nesting : Nat)
    (tokens : List Located) (within : nesting ≤ limits.maxNesting) (fuel : Nat)
    (enough : Session.fuelFor stratum tokens.length ≤ fuel) :
    ∃ outcome after,
      Session.runFrom (.start tokens nesting) (Session.treeAt limits fuel stratum) =
          some (outcome, after) ∧
        outcome = (treeAt limits stratum nesting tokens).outcome.map Parsed.read ∧
        after.nesting = nesting ∧ after.peak ≤ limits.maxNesting ∧
        ∀ read, outcome = .ok read →
          (∃ used, used ≠ [] ∧ tokens = used ++ after.rest) ∧
            read.depth = read.tree.depth ∧ read.depth ≤ limits.maxDepth := by
  obtain ⟨outcome, after, ran, kept, bounded, same⟩ :=
    Session.keeps_treeAt limits stratum nesting tokens fuel enough nesting (Nat.le_refl nesting)
      within
  refine ⟨outcome, after, ran, ?_, kept, bounded, ?_⟩
  · generalize (treeAt limits stratum nesting tokens).outcome = computed at same ⊢
    cases same with
    | ok related =>
        rw [related.1]
        rfl
    | error related =>
        rw [related]
        rfl
  · rintro read rfl
    generalize computed : (treeAt limits stratum nesting tokens).outcome = result at same
    obtain ⟨rfl, left⟩ | _ := same
    have reads : Reads limits stratum nesting tokens _ _ := ⟨_, computed⟩
    obtain ⟨used, _, split, _, _, depth, shallow⟩ := justified_of_reads reads
    refine ⟨⟨used, ?_, left ▸ split⟩, depth, shallow⟩
    rintro rfl
    exact Nat.ne_of_gt reads.shorter (congrArg List.length split)

/-- Two groups open and the tokens end, with the largest limits of 64 bits and two constructs open
before: as many are open after the failure. -/
theorem session_keeps_nesting_of_open_groups :
    let limits : Limits := ⟨18446744073709551615, 18446744073709551615⟩
    let tokens : List Located := [⟨.openParen, 5⟩, ⟨.openParen, 6⟩, ⟨.number ['1'], 7⟩]
    2 ≤ limits.maxNesting ∧ Session.fuelFor .conditional tokens.length ≤ 100 ∧
      ∃ after, Session.runFrom (.start tokens 2) (Session.treeAt limits 100 .conditional) =
          some (.error (.unclosedParenthesis 6), after) ∧
        after.nesting = 2 ∧ after.peak ≤ limits.maxNesting := by
  intro limits tokens
  have within : 2 ≤ limits.maxNesting := by decide
  have enough : Session.fuelFor .conditional tokens.length ≤ 100 := by decide
  obtain ⟨outcome, after, ran, same, kept, bounded, _⟩ :=
    session_keeps_nesting limits .conditional 2 tokens within 100 enough
  have fails : (treeAt limits .conditional 2 tokens).outcome.map Parsed.read =
      .error (.unclosedParenthesis 6) := by cbv
  exact ⟨within, enough, after, by rw [ran, same, fails], kept, bounded⟩

end Calculator.Parse
