import Calculator.Traced

/-!
# Outcomes of sequences

A sequence of computations succeeds exactly when each of them does
(`bind_eq_ok_iff`). What holds of its results and of its failures is found one
computation at a time: each starts from what holds of the result before it
(`Ensures.bind`). Two sequences are compared in the same way: they correspond when their parts do
(`Corresponds.bind`).
-/

set_option autoImplicit false

namespace Calculator

variable {ε ε' α β : Type}

/-- Outcomes can be compared when values and errors can. -/
instance decidableEqOutcome [DecidableEq ε] [DecidableEq α] : DecidableEq (Except ε α)
  | .ok a, .ok b => decidable_of_iff (a = b) (by simp)
  | .error a, .error b => decidable_of_iff (a = b) (by simp)
  | .ok _, .error _ => .isFalse nofun
  | .error _, .ok _ => .isFalse nofun

/-- A sequence succeeds when its first part does and its second part does with the result. -/
theorem bind_eq_ok_iff {first : Except ε α} {next : α → Except ε β} {b : β} :
    first >>= next = .ok b ↔ ∃ a, first = .ok a ∧ next a = .ok b := by
  cases first with
  | error error =>
      constructor
      · intro impossible
        cases impossible
      · rintro ⟨a, impossible, _⟩
        cases impossible
  | ok a =>
      constructor
      · intro succeeds
        exact ⟨a, rfl, succeeds⟩
      · rintro ⟨_, same, succeeds⟩
        cases same
        exact succeeds

/-- A sequence fails when its first part does, or its second part does with the result. -/
theorem bind_eq_error_iff {first : Except ε α} {next : α → Except ε β} {error : ε} :
    first >>= next = .error error ↔
      first = .error error ∨ ∃ a, first = .ok a ∧ next a = .error error := by
  cases first with
  | error error' =>
      constructor
      · intro fails
        cases fails
        exact .inl rfl
      · rintro (fails | ⟨_, impossible, _⟩)
        · cases fails
          rfl
        · cases impossible
  | ok a =>
      constructor
      · intro fails
        exact .inr ⟨a, rfl, fails⟩
      · rintro (impossible | ⟨_, same, fails⟩)
        · cases impossible
        · cases same
          exact fails

/-- The same for computations that leave records. -/
theorem Traced.outcome_bind_eq_ok_iff {first : Traced ε α} {next : α → Traced ε β} {b : β} :
    (first >>= next).outcome = .ok b ↔ ∃ a, first.outcome = .ok a ∧ (next a).outcome = .ok b := by
  rw [Traced.outcome_bind, bind_eq_ok_iff]

theorem Traced.outcome_bind_eq_error_iff {first : Traced ε α} {next : α → Traced ε β} {error : ε} :
    (first >>= next).outcome = .error error ↔
      first.outcome = .error error ∨
        ∃ a, first.outcome = .ok a ∧ (next a).outcome = .error error := by
  rw [Traced.outcome_bind, bind_eq_error_iff]

theorem mapError_eq_ok_iff {f : ε → ε'} {outcome : Except ε α} {a : α} :
    outcome.mapError f = .ok a ↔ outcome = .ok a := by
  cases outcome with
  | ok result =>
      constructor
      · rintro ⟨⟩
        rfl
      · rintro ⟨⟩
        rfl
  | error error => exact ⟨nofun, nofun⟩

theorem mapError_eq_error_iff {f : ε → ε'} {outcome : Except ε α} {error' : ε'} :
    outcome.mapError f = .error error' ↔ ∃ error, outcome = .error error ∧ f error = error' := by
  cases outcome with
  | ok result => exact ⟨nofun, nofun⟩
  | error error =>
      constructor
      · rintro ⟨⟩
        exact ⟨error, rfl, rfl⟩
      · rintro ⟨_, ⟨⟩, rfl⟩
        rfl

/-- A sequence whose first part succeeds has the outcome of its second part. -/
theorem Traced.outcome_bind_of_eq_ok {first : Traced ε α} {a : α} (succeeds : first.outcome = .ok a)
    (next : α → Traced ε β) : (first >>= next).outcome = (next a).outcome := by
  rw [Traced.outcome_bind, succeeds]
  rfl

/-- A computation whose records and result are known, and another one after it. -/
theorem Traced.bind_mk_ok (records : List Record) (a : α) (next : α → Traced ε β) :
    ((⟨records, .ok a⟩ : Traced ε α) >>= next) =
      ⟨records ++ (next a).records, (next a).outcome⟩ := rfl

/-- A computation whose records and failure are known ends the sequence. -/
theorem Traced.bind_mk_error (records : List Record) (error : ε) (next : α → Traced ε β) :
    ((⟨records, .error error⟩ : Traced ε α) >>= next) = ⟨records, .error error⟩ := rfl

/-! ## What results and failures have in common -/

/-- The outcome is a result of which `good` holds, or a failure of which `bad` holds. -/
def Ensures (outcome : Except ε α) (good : α → Prop) (bad : ε → Prop) : Prop :=
  match outcome with
  | .ok a => good a
  | .error error => bad error

namespace Ensures

variable {outcome : Except ε α} {good good' : α → Prop} {goodNext : β → Prop} {bad bad' : ε → Prop}

theorem of_ok {a : α} (ensures : Ensures outcome good bad) (succeeds : outcome = .ok a) :
    good a := by
  subst succeeds
  exact ensures

theorem of_error {error : ε} (ensures : Ensures outcome good bad) (fails : outcome = .error error) :
    bad error := by
  subst fails
  exact ensures

theorem imp (ensures : Ensures outcome good bad) (weakerResult : ∀ a, good a → good' a)
    (weakerFailure : ∀ error, bad error → bad' error) : Ensures outcome good' bad' := by
  cases outcome with
  | ok a => exact weakerResult a ensures
  | error error => exact weakerFailure error ensures

theorem imp_result (ensures : Ensures outcome good bad) (weaker : ∀ a, good a → good' a) :
    Ensures outcome good' bad :=
  ensures.imp weaker fun _ => id

theorem imp_failure (ensures : Ensures outcome good bad)
    (weaker : ∀ error, bad error → bad' error) : Ensures outcome good bad' :=
  ensures.imp (fun _ => id) weaker

/-- A sequence fails as its first part fails, or as its second part does from a result of the
first. -/
theorem bind {next : α → Except ε β} (first : Ensures outcome good bad)
    (second : ∀ a, good a → Ensures (next a) goodNext bad) :
    Ensures (outcome >>= next) goodNext bad := by
  cases outcome with
  | ok a => exact second a first
  | error error => exact first

/-- The same for computations that leave records. -/
theorem outcome_bind {computation : Traced ε α} {next : α → Traced ε β}
    (first : Ensures computation.outcome good bad)
    (second : ∀ a, good a → Ensures (next a).outcome goodNext bad) :
    Ensures (computation >>= next).outcome goodNext bad := by
  rw [Traced.outcome_bind]
  exact first.bind second

end Ensures

/-! ## Two outcomes -/

/-- Both outcomes are results, which are related, or both are failures, which are related. -/
inductive Corresponds {α' : Type} (results : α → α' → Prop) (failures : ε → ε' → Prop) :
    Except ε α → Except ε' α' → Prop where
  | ok {a : α} {a' : α'} (related : results a a') : Corresponds results failures (.ok a) (.ok a')
  | error {e : ε} {e' : ε'} (related : failures e e') :
      Corresponds results failures (.error e) (.error e')

/-- Sequences correspond when their first parts do, and their second parts do from related results
of the first. -/
theorem Corresponds.bind {α' β' : Type} {results : α → α' → Prop} {resultsNext : β → β' → Prop}
    {failures : ε → ε' → Prop} {outcome : Except ε α} {outcome' : Except ε' α'}
    {next : α → Except ε β} {next' : α' → Except ε' β'}
    (first : Corresponds results failures outcome outcome')
    (second : ∀ a a', outcome = .ok a → results a a' →
      Corresponds resultsNext failures (next a) (next' a')) :
    Corresponds resultsNext failures (outcome >>= next) (outcome' >>= next') := by
  cases first with
  | ok related => exact second _ _ rfl related
  | error related => exact .error related

/-- The same for computations that leave records. -/
theorem Corresponds.outcome_bind {α' β' : Type} {results : α → α' → Prop}
    {resultsNext : β → β' → Prop} {failures : ε → ε' → Prop} {computation : Traced ε α}
    {computation' : Traced ε' α'} {next : α → Traced ε β} {next' : α' → Traced ε' β'}
    (first : Corresponds results failures computation.outcome computation'.outcome)
    (second : ∀ a a', computation.outcome = .ok a → results a a' →
      Corresponds resultsNext failures (next a).outcome (next' a').outcome) :
    Corresponds resultsNext failures (computation >>= next).outcome
      (computation' >>= next').outcome := by
  rw [Traced.outcome_bind, Traced.outcome_bind]
  exact first.bind second

/-- An outcome whose result or failure is the image of another one's is the image of the other. -/
theorem Corresponds.eq_image {α' : Type} {f : α → α'} {g : ε → ε'} {outcome : Except ε α}
    {outcome' : Except ε' α'}
    (same : Corresponds (fun a a' => a' = f a) (fun e e' => e' = g e) outcome outcome') :
    outcome' = (outcome.map f).mapError g := by
  cases same with
  | ok related => exact congrArg Except.ok related
  | error related => exact congrArg Except.error related

end Calculator
