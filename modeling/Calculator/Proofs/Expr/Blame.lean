import Calculator.Proofs.Expr.Outline
import Mathlib.Data.Nat.Find
import Mathlib.Order.Bounds.Basic

/-!
# The error of a sequence of tokens that is no expression

Reading stops at the first token that no expression has there, and the error is
told by what came before that token (`parse_blames_first_offence`). A limit may stop
it earlier, but only one that is smaller than the number of tokens
(`Parse.not_exceeds`).

**What may come next.** The tokens of an expression are those that take the empty
outline to an outline with nothing pending and an operand in place
(`isExpression_iff`). Tokens can be extended to an expression if they have an outline
(`viable_iff`): an operand, where one must come, and the closing tokens of what is
pending complete them (`Outline.completion`). So the first token that no expression
has there is the first that the outline does not admit.

**The error.** The outline of the tokens in front of it is all that the error depends
on, and the outline can be read off these tokens (`eq_of_run?_start`).
-/

set_option autoImplicit false

namespace Calculator

/-! ## Expressions and their beginnings -/

/-- The grammar derives the tokens as a tree. -/
def IsExpression (tokens : List Located) : Prop :=
  ∃ nesting tree, Derives .conditional (tokens.map Located.token) nesting tree

/-- More tokens make the tokens an expression. -/
def Viable (tokens : List Located) : Prop :=
  ∃ more, IsExpression (tokens ++ more)

/-- The place of the first token with which the tokens up to it are no beginning of an expression,
or the place after the last token if there is none. -/
def FirstOffence (tokens : List Located) (place : Nat) : Prop :=
  IsLeast {i | i = tokens.length ∨ ¬ Viable (tokens.take (i + 1))} place

theorem exists_firstOffence (tokens : List Located) : ∃ place, FirstOffence tokens place := by
  classical
  have someplace : ∃ i, i = tokens.length ∨ ¬ Viable (tokens.take (i + 1)) := ⟨_, .inl rfl⟩
  exact ⟨Nat.find someplace, Nat.find_spec someplace, fun _ member => Nat.find_min' _ member⟩

/-- The error for tokens that cannot go on with the next token, or cannot end if there is none. -/
def blame? (before : List Located) (next? : Option Located) : Option ParseError :=
  if awaitsOperand before then
    match next? with
    | some next => some (.expectedOperand next.token next.position)
    | none => some .unexpectedEnd
  else
    match pending? before with
    | some (opener :: _) => some opener.unclosed
    | some [] => next?.map fun next => .trailingInput next.token next.position
    | none => none

variable {limits : Limits} {tokens used rest : List Located} {outline : Outline}
  {next? : Option Located} {error : ParseError}

namespace Outline

/-! ## Outlines of beginnings -/

/-- The outline of tokens can be read off them. -/
theorem eq_of_run?_start (ran : run? start used = some outline) :
    awaitsOperand used = outline.awaiting ∧ pending? used = some outline.pending := by
  induction used using List.reverseRecOn generalizing outline with
  | nil =>
      cases ran
      exact ⟨rfl, rfl⟩
  | append_singleton front last ih =>
      rw [run?_append, Option.bind_eq_some_iff] at ran
      obtain ⟨middle, ranFront, stepped⟩ := ran
      obtain ⟨_, pendingFront⟩ := ih ranFront
      rw [run?_singleton, step?_eq_some_iff] at stepped
      obtain ⟨_, closes, awaits⟩ := stepped
      refine ⟨by simpa [awaitsOperand] using awaits, ?_⟩
      rw [pending?] at pendingFront ⊢
      simp [pendingFront, closes]

/-- A number, and the closing tokens of what is pending with the branches that are missing. -/
def completion (outline : Outline) : List Located :=
  (if outline.awaiting then [number] else []) ++ outline.pending.flatMap fun
    | .parenthesis _ => [⟨.closeParen, 0⟩]
    | .question _ => [⟨.colon, 0⟩, number]
where
  /-- An operand. -/
  number : Located := ⟨.number ['0'], 0⟩

theorem run?_completion (outline : Outline) :
    outline.run? outline.completion = some ⟨false, []⟩ := by
  obtain ⟨awaiting, pending⟩ := outline
  have closes : run? ⟨false, pending⟩ (completion ⟨false, pending⟩) = some ⟨false, []⟩ := by
    induction pending with
    | nil => rfl
    | cons opener outer ih =>
        cases opener with
        | parenthesis opened => exact ih
        | question question => exact ih
  cases awaiting with
  | false => exact closes
  | true => exact closes

/-- Where an outline is stuck, the next token may not come. -/
theorem Stuck.step?_eq_none {next : Located} (stuck : Stuck outline (some next) error) :
    outline.step? next = none := by
  cases stuck with
  | operand wrong => simp [step?, wrong]
  | unclosed wrong => exact wrong _ rfl
  | trailing wrong => exact wrong

/-- What an outline is stuck on is no end of an expression. -/
theorem Stuck.run?_ne (stuck : Stuck outline rest.head? error) :
    outline.run? rest ≠ some ⟨false, []⟩ := by
  cases rest with
  | nil =>
      rintro ⟨⟩
      cases stuck
  | cons next later =>
      rw [run?_cons, stuck.step?_eq_none]
      nofun

/-- The error of a stuck outline is told by the tokens that have it. -/
theorem Stuck.blame?_eq (stuck : Stuck outline next? error)
    (ran : run? start used = some outline) : blame? used next? = some error := by
  obtain ⟨awaits, pending⟩ := eq_of_run?_start ran
  cases stuck <;> simp [blame?, awaits, pending]

end Outline

open Outline

/-! ## The parser and the outline -/

/-- The parser accepts tokens whose outline is complete, and it fails where the outline is stuck. -/
theorem ensures_parse (limits : Limits) (tokens : List Located) :
    Ensures (parse limits tokens).outcome (fun _ => run? start tokens = some ⟨false, []⟩)
      fun error => Parse.Exceeds limits 0 tokens error ∨ ∃ used rest outline,
        tokens = used ++ rest ∧ run? start used = some outline ∧
          outline.Stuck rest.head? error := by
  have whole := Parse.keepsOutline_treeAt limits .conditional 0 tokens (by simp)
  unfold parse
  have faults := whole.imp_failure fun _ faults => Or.imp_right (fun halts => halts []) faults
  refine faults.outcome_bind ?_
  · rintro ⟨read, rest, _⟩ ⟨⟨used, split, inOutline, _⟩, ends⟩
    cases rest with
    | nil =>
        rw [List.append_nil] at split
        exact split ▸ inOutline []
    | cons next later =>
        refine .inr ⟨used, next :: later, ⟨false, []⟩, split, inOutline [], .trailing ?_⟩
        exact Parse.step?_eq_none_of_ends ends (by simp) _ rfl

/-- **Expressions in outline.** -/
theorem isExpression_iff : IsExpression tokens ↔ run? start tokens = some ⟨false, []⟩ := by
  -- Under limits as large as the number of tokens the parser fails only where the outline is stuck.
  let limits : Limits := ⟨tokens.length, tokens.length⟩
  have ensured := ensures_parse limits tokens
  constructor
  · rintro ⟨nesting, tree, derives⟩
    have bounds := derives.nesting_lt_and_depth_le_length
    rw [List.length_map] at bounds
    have fits : nesting ≤ limits.maxNesting := Nat.le_of_lt bounds.1
    exact ensured.of_ok (Parse.parse_of_derives derives fits bounds.2)
  · intro complete
    cases parsed : (parse limits tokens).outcome with
    | ok tree =>
        obtain ⟨nesting, derives, _⟩ := Parse.exists_derives_of_parse parsed
        exact ⟨nesting, tree, derives⟩
    | error error =>
        obtain ⟨used, rest, outline, split, ran, stuck⟩ := (ensured.of_error parsed).resolve_left
          (Parse.not_exceeds (Nat.le_of_eq (Nat.zero_add _)) (Nat.le_refl _))
        rw [split, run?_append, ran] at complete
        exact absurd complete stuck.run?_ne

/-- **Beginnings of expressions in outline.** -/
theorem viable_iff : Viable tokens ↔ ∃ outline, run? start tokens = some outline := by
  constructor
  · rintro ⟨more, expression⟩
    rw [isExpression_iff, run?_append, Option.bind_eq_some_iff] at expression
    obtain ⟨outline, ran, _⟩ := expression
    exact ⟨outline, ran⟩
  · rintro ⟨outline, ran⟩
    refine ⟨outline.completion, ?_⟩
    rw [isExpression_iff, run?_append, ran]
    exact outline.run?_completion

/-- A beginning of a beginning of an expression is one. -/
theorem Viable.of_append (viable : Viable (used ++ rest)) : Viable used := by
  obtain ⟨more, expression⟩ := viable
  exact ⟨rest ++ more, by rwa [← List.append_assoc]⟩

/-- The first offence is where the outline is stuck. -/
theorem firstOffence_of_stuck (ran : run? start used = some outline)
    (stuck : outline.Stuck rest.head? error) : FirstOffence (used ++ rest) used.length := by
  constructor
  · cases rest with
    | nil => exact .inl (by simp)
    | cons next later =>
        right
        rw [List.append_cons, List.take_left' (by simp), viable_iff, run?_append, ran,
          Option.bind_some, run?_cons, stuck.step?_eq_none]
        nofun
  · rintro i (rfl | offends)
    · simp
    · by_contra! earlier
      apply offends
      rw [List.take_append_of_le_length earlier]
      have viable : Viable used := viable_iff.mpr ⟨outline, ran⟩
      rw [← List.take_append_drop (i + 1) used] at viable
      exact viable.of_append

/-- **The error is found at the first offence, and blames what is wrong there.** Tokens that are no
expression fail. Unless a limit smaller than their number is exceeded, the error is told by the
tokens in front of the first offence and by the token there. -/
theorem parse_blames_first_offence (limits : Limits) (tokens : List Located)
    (noExpression : ¬ IsExpression tokens) :
    ∃ place, FirstOffence tokens place ∧ ∃ error, (parse limits tokens).outcome = .error error ∧
      (¬ Parse.Exceeds limits 0 tokens error →
        blame? (tokens.take place) tokens[place]? = some error) := by
  obtain ⟨place, first⟩ := exists_firstOffence tokens
  have ensured := ensures_parse limits tokens
  cases parsed : (parse limits tokens).outcome with
  | ok tree => exact absurd (isExpression_iff.mpr (ensured.of_ok parsed)) noExpression
  | error error =>
      refine ⟨place, first, error, rfl, fun inLimits => ?_⟩
      obtain ⟨used, rest, outline, rfl, ran, stuck⟩ :=
        (ensured.of_error parsed).resolve_left inLimits
      obtain rfl : place = used.length := first.unique (firstOffence_of_stuck ran stuck)
      rw [List.take_left, List.getElem?_append_right (Nat.le_refl _), Nat.sub_self,
        ← List.head?_eq_getElem?]
      exact stuck.blame?_eq ran

/-- In `(1 ? 2 )` the conditional has no `:`. The first offence is the parenthesis, at place 4, and
the `?`, at position 3, is blamed for it, not the `(`. -/
theorem parse_blames_first_offence_of_missing_colon :
    let tokens : List Located := [⟨.openParen, 0⟩, ⟨.number ['1'], 1⟩, ⟨.question, 3⟩,
      ⟨.number ['2'], 5⟩, ⟨.closeParen, 7⟩]
    ¬ IsExpression tokens ∧ FirstOffence tokens 4 ∧
      ¬ Parse.Exceeds ⟨5, 5⟩ 0 tokens (.missingColon 3) ∧
      (parse ⟨5, 5⟩ tokens).outcome = .error (.missingColon 3) ∧
      blame? (tokens.take 4) tokens[4]? = some (.missingColon 3) := by
  intro tokens
  have noExpression : ¬ IsExpression tokens := by
    rw [isExpression_iff]
    decide
  have inLimits : ¬ Parse.Exceeds ⟨5, 5⟩ 0 tokens (.missingColon 3) := by
    rintro ⟨⟩
  have ran : run? start (tokens.take 4) = some ⟨false, [.question 3, .parenthesis 0]⟩ := rfl
  have stuck : Stuck ⟨false, [.question 3, .parenthesis 0]⟩ (tokens.drop 4).head?
      (Opener.question 3).unclosed :=
    .unclosed (by decide)
  have first : FirstOffence (tokens.take 4 ++ tokens.drop 4) (tokens.take 4).length :=
    firstOffence_of_stuck ran stuck
  obtain ⟨place, firstAgain, error, failed, blames⟩ :=
    parse_blames_first_offence ⟨5, 5⟩ tokens noExpression
  obtain rfl : error = .missingColon 3 := by
    have parsed : (parse ⟨5, 5⟩ tokens).outcome = .error (.missingColon 3) := by cbv
    exact Except.error.inj (failed.symm.trans parsed)
  obtain rfl : place = 4 := firstAgain.unique first
  exact ⟨noExpression, first, inLimits, failed, blames inLimits⟩

end Calculator
