import Calculator.Record

/-!
# Computations that leave records

A `Traced` computation may fail, and it leaves records whether it fails or not.
Both are data: the records in the order in which they were made, and the outcome.
One computation after another keeps the records of both, and those of the first
alone if it fails. So a statement about what a calculation records is a
statement about what it returns.
-/

set_option autoImplicit false

namespace Calculator

/-- The records and the outcome of a computation that may fail with an `ε`. -/
structure Traced (ε α : Type) where
  records : List Record
  outcome : Except ε α

namespace Traced

variable {ε ε' α β : Type}

/-- One computation, and then another that depends on its result. -/
def bind (first : Traced ε α) (next : α → Traced ε β) : Traced ε β :=
  match first.outcome with
  | .error error => ⟨first.records, .error error⟩
  | .ok a =>
      let second := next a
      ⟨first.records ++ second.records, second.outcome⟩

instance : Monad (Traced ε) where
  pure a := ⟨[], .ok a⟩
  bind := bind

/-- An outcome without records. -/
def ofExcept (outcome : Except ε α) : Traced ε α :=
  ⟨[], outcome⟩

/-- A failure without records. -/
def fail (error : ε) : Traced ε α :=
  ofExcept (.error error)

/-- One record. -/
def log (record : Record) : Traced ε Unit :=
  ⟨[record], .ok ()⟩

/-- The computation with its failure, if any, replaced by its image. -/
def mapError (f : ε → ε') (computation : Traced ε α) : Traced ε' α :=
  ⟨computation.records, computation.outcome.mapError f⟩

/-! ## Outcomes and records of each operation -/

@[simp] theorem outcome_pure (a : α) : (pure a : Traced ε α).outcome = .ok a := rfl

@[simp] theorem records_pure (a : α) : (pure a : Traced ε α).records = [] := rfl

@[simp] theorem outcome_ofExcept (outcome : Except ε α) : (ofExcept outcome).outcome = outcome :=
  rfl

@[simp] theorem records_ofExcept (outcome : Except ε α) : (ofExcept outcome).records = [] := rfl

@[simp] theorem outcome_fail (error : ε) : (fail error : Traced ε α).outcome = .error error := rfl

@[simp] theorem records_fail (error : ε) : (fail error : Traced ε α).records = [] := rfl

@[simp] theorem outcome_log (record : Record) : (log record : Traced ε Unit).outcome = .ok () := rfl

@[simp] theorem records_log (record : Record) : (log record : Traced ε Unit).records = [record] :=
  rfl

@[simp] theorem outcome_mapError (f : ε → ε') (computation : Traced ε α) :
    (computation.mapError f).outcome = computation.outcome.mapError f := rfl

@[simp] theorem records_mapError (f : ε → ε') (computation : Traced ε α) :
    (computation.mapError f).records = computation.records := rfl

/-- The outcome of a sequence is the sequence of the outcomes. -/
@[simp] theorem outcome_bind (first : Traced ε α) (next : α → Traced ε β) :
    (first >>= next).outcome = first.outcome >>= fun a => (next a).outcome := by
  obtain ⟨records, outcome⟩ := first
  cases outcome <;> rfl

/-- A sequence keeps the records of the first computation, and those of the second if the first
succeeds. -/
theorem records_bind (first : Traced ε α) (next : α → Traced ε β) :
    (first >>= next).records =
      first.records ++ match first.outcome with
        | .ok a => (next a).records
        | .error _ => [] := by
  obtain ⟨records, outcome⟩ := first
  cases outcome <;> simp [Bind.bind, bind]

instance : LawfulMonad (Traced ε) :=
  LawfulMonad.mk' (Traced ε)
    (fun ⟨records, outcome⟩ => by
      cases outcome <;> simp [Functor.map, bind])
    (fun a next => by
      simp [Bind.bind, Pure.pure, bind])
    (fun ⟨records, outcome⟩ second third => by
      cases outcome with
      | error error => rfl
      | ok a =>
          simp only [Bind.bind, bind]
          cases (second a).outcome <;> simp)

end Traced

end Calculator
