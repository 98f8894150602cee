import Calculator.Proofs.Evaluation.Visits

/-!
# The limit on the depth

An evaluation under a limit is compared with one that its limit does not end. The limit matters only
if the second evaluation enters a node beyond it, and then it ends the first
(`depth_limit_is_exact`). What evaluation does not enter does not count: a skipped operand may be
deeper than any limit.

Only the limit gives the failure that names it. Texts fail to be read because of their form
(`Encoding.ofForm_read`), operators because of their operands, and literals because they write no
number. So a limit that leaves enough levels for a whole tree or text never ends its evaluation.
-/

set_option autoImplicit false

namespace Calculator

variable {α : Type}

/-! ## Failures that no limit causes -/

/-- The failure is that of a text which is no encoded expression. -/
inductive EvalError.OfForm : EvalError → Prop where
  | malformed (text : List Char) (reason : Malformation) : OfForm (.malformed text reason)
  | unknownOperator (symbol : List Char) : OfForm (.unknownOperator symbol)
  | wrongArity (symbol : List Char) (expected : List Nat) (found : Nat) :
      OfForm (.wrongArity symbol expected found)

namespace Encoding

theorem ofForm_misapplied (symbol : List Char) (found : Nat) :
    (misapplied symbol found).OfForm := by
  unfold misapplied
  split
  · exact .unknownOperator symbol
  · exact .wrongArity symbol _ found

theorem ofForm_apply (symbol : List Char) (operands : List (List Char)) :
    Ensures (apply symbol operands) (fun _ => True) EvalError.OfForm := by
  unfold apply
  split
  · split
    · trivial
    · exact ofForm_misapplied symbol 1
  · split
    · trivial
    · exact ofForm_misapplied symbol 2
  · split
    · trivial
    · exact ofForm_misapplied symbol 3
  · exact ofForm_misapplied symbol _

theorem ofForm_operands (body : List Char) :
    Ensures (operands body) (fun _ => True) EvalError.OfForm := by
  unfold operands
  split
  · trivial
  · split
    · trivial
    · exact .malformed body _

/-- Reading fails for no reason but the form of the text. -/
theorem ofForm_read (text : List Char) :
    Ensures (read text) (fun _ => True) EvalError.OfForm := by
  unfold read readTrimmed
  split
  · trivial
  · split
    · exact .malformed _ _
    · split
      · exact .malformed _ _
      · refine (ofForm_operands _).bind fun operands _ => ?_
        split
        · exact .malformed _ _
        · exact ofForm_apply _ operands

end Encoding

/-- The failure is not that of an expression which is too deep. -/
def EvalError.NotOfDepth (error : EvalError) : Prop :=
  ∀ limit, error ≠ .tooDeep limit

/-- An expression under no limit does not fail because of its depth, provided that looking at its
nodes does not. -/
theorem notOfDepth_outcome {view : View α}
    (each : ∀ a, Ensures (view.node a) (fun _ => True) EvalError.NotOfDepth) (a : α) :
    Ensures (view.outcome a) (fun _ => True) EvalError.NotOfDepth := by
  induction size : view.size a using Nat.strongRecOn generalizing a with
  | ind bound ih =>
      rw [View.outcome_eq]
      cases found : view.node a with
      | error error => exact (each a).of_error found
      | ok node =>
          apply ensures_evaluateNode
          · intro digits _
            unfold Value.ofLiteral
            split
            · trivial
            · intro limit impossible
              cases impossible
          · intro error byOperator limit same
            rw [same] at byOperator
            cases byOperator
          · intro operand member
            exact ih _ (size ▸ view.size_lt found member) operand rfl


/-! ## The limit is exact -/

namespace Traced

/-- The evaluation ends because of a limit on the depth. -/
def EndsByDepth (evaluation : Traced EvalError Value) : Prop :=
  ∃ limit, evaluation.outcome = .error (.tooDeep limit)

/-- The evaluation enters a node that is deeper than `limit`. -/
def EntersBeyond (limit : Nat) (evaluation : Traced EvalError Value) : Prop :=
  ∃ level text, .entered level text ∈ evaluation.records ∧ limit < level

end Traced

section Exact

variable {view : View α} {limits wide : Limits} {a : α}

/-- An evaluation that the limit does not end enters no node beyond the limit. -/
theorem evaluateAt_of_not_endsByDepth (unbound : ¬ (evaluateAt view wide 1 a).EndsByDepth) :
    evaluateAt view wide 1 a = ⟨(view.visits 1 a).flatMap view.records, view.outcome a⟩ := by
  apply evaluateAt_of_within
  intro level part entered
  by_contra beyond
  exact unbound ⟨_, outcome_evaluateAt_of_beyond entered (Nat.lt_of_not_le beyond)⟩

/-- A limit that an evaluation without it does not exceed does not matter. -/
theorem evaluateAt_eq_of_not_entersBeyond (unbound : ¬ (evaluateAt view wide 1 a).EndsByDepth)
    (within : ¬ (evaluateAt view wide 1 a).EntersBeyond limits.maxDepth) :
    evaluateAt view limits 1 a = evaluateAt view wide 1 a := by
  rw [evaluateAt_of_not_endsByDepth unbound] at within ⊢
  apply evaluateAt_of_within
  intro level part entered
  by_contra beyond
  exact within ⟨level, view.text part, View.entered_mem_records_iff.mpr ⟨part, entered, rfl⟩,
    Nat.lt_of_not_le beyond⟩

/-- A limit that an evaluation without it exceeds ends the evaluation. -/
theorem outcome_evaluateAt_of_entersBeyond (unbound : ¬ (evaluateAt view wide 1 a).EndsByDepth)
    (exceeds : (evaluateAt view wide 1 a).EntersBeyond limits.maxDepth) :
    (evaluateAt view limits 1 a).outcome = .error (.tooDeep limits.maxDepth) := by
  rw [evaluateAt_of_not_endsByDepth unbound] at exceeds
  obtain ⟨level, text, recorded, beyond⟩ := exceeds
  obtain ⟨part, entered, _⟩ := View.entered_mem_records_iff.mp recorded
  exact outcome_evaluateAt_of_beyond entered beyond

/-- The nodes that an evaluation enters are those that the visits enter, which pass over operands
that are not needed. -/
theorem entered_mem_records_evaluateAt_iff
    (unbound : ¬ (evaluateAt view wide 1 a).EndsByDepth) (level : Nat) (text : List Char) :
    .entered level text ∈ (evaluateAt view wide 1 a).records ↔
      ∃ part, .enter level part ∈ view.visits 1 a ∧ view.text part = text := by
  rw [evaluateAt_of_not_endsByDepth unbound]
  exact View.entered_mem_records_iff

/-- A limit that no visit exceeds does not end the evaluation. -/
theorem not_endsByDepth_of_within
    (each : ∀ a, Ensures (view.node a) (fun _ => True) EvalError.NotOfDepth)
    (within : ∀ level part, .enter level part ∈ view.visits 1 a → level ≤ limits.maxDepth) :
    ¬ (evaluateAt view limits 1 a).EndsByDepth := by
  rintro ⟨limit, failed⟩
  rw [evaluateAt_of_within within] at failed
  exact (notOfDepth_outcome each a).of_error failed limit rfl

end Exact

/-- A tree that is no deeper than the limit allows does not end the evaluation, whatever its
operators are. -/
theorem not_endsByDepth_of_depth_le {limits : Limits} {expr : Expr}
    (shallow : expr.depth ≤ limits.maxDepth) : ¬ (evaluate limits expr).EndsByDepth := by
  refine not_endsByDepth_of_within (fun _ => trivial) fun level part entered => ?_
  exact Nat.le_trans (View.level_le_depth entered) shallow

/-- A text that is shorter than the limit does not end the evaluation. -/
theorem not_endsByDepth_of_length_lt {limits : Limits} {text : List Char}
    (short : text.length < limits.maxDepth) : ¬ (evaluateEncoded limits text).EndsByDepth := by
  refine not_endsByDepth_of_within (fun text => ?_) fun level part entered => ?_
  · refine (Encoding.ofForm_read text).imp_failure fun error ofForm limit same => ?_
    rw [same] at ofForm
    cases ofForm
  · have inside : level + part.length ≤ 1 + text.length := View.level_add_size_le entered
    omega

/-- **The limit on the depth is exact, and it counts only what is evaluated.** Compare the
evaluation of a tree, or of a text that need not be an encoded expression, with its evaluation under
a limit that does not end it. If the latter enters no node beyond the former's limit, both are the
same, with all their records, whether they succeed or fail. If it does, the former fails because of
its limit. The nodes that are entered are those of the visits, so that operands which are not needed
do not count. No limit ends the evaluation of a tree that is no deeper than it, or of a text that is
shorter. -/
theorem depth_limit_is_exact (limits wide : Limits) :
    (∀ expr, ¬ (evaluate wide expr).EndsByDepth →
      (¬ (evaluate wide expr).EntersBeyond limits.maxDepth →
        evaluate limits expr = evaluate wide expr) ∧
      ((evaluate wide expr).EntersBeyond limits.maxDepth →
        (evaluate limits expr).outcome = .error (.tooDeep limits.maxDepth)) ∧
      ∀ level text, .entered level text ∈ (evaluate wide expr).records ↔
        ∃ part, .enter level part ∈ View.tree.visits 1 expr ∧ part.encode = text) ∧
    (∀ text, ¬ (evaluateEncoded wide text).EndsByDepth →
      (¬ (evaluateEncoded wide text).EntersBeyond limits.maxDepth →
        evaluateEncoded limits text = evaluateEncoded wide text) ∧
      ((evaluateEncoded wide text).EntersBeyond limits.maxDepth →
        (evaluateEncoded limits text).outcome = .error (.tooDeep limits.maxDepth)) ∧
      ∀ level part, .entered level part ∈ (evaluateEncoded wide text).records ↔
        .enter level part ∈ View.encoded.visits 1 text) ∧
    (∀ expr : Expr, expr.depth ≤ limits.maxDepth → ¬ (evaluate limits expr).EndsByDepth) ∧
    (∀ text : List Char, text.length < limits.maxDepth →
      ¬ (evaluateEncoded limits text).EndsByDepth) := by
  refine ⟨fun expr unbound => ?_, fun text unbound => ?_, fun expr => not_endsByDepth_of_depth_le,
    fun text => not_endsByDepth_of_length_lt⟩
  · exact ⟨evaluateAt_eq_of_not_entersBeyond unbound, outcome_evaluateAt_of_entersBeyond unbound,
      entered_mem_records_evaluateAt_iff unbound⟩
  · refine ⟨evaluateAt_eq_of_not_entersBeyond unbound, outcome_evaluateAt_of_entersBeyond unbound,
      fun level part => ?_⟩
    refine (entered_mem_records_evaluateAt_iff unbound level part).trans ?_
    constructor
    · rintro ⟨_, entered, rfl⟩
      exact entered
    · intro entered
      exact ⟨part, entered, rfl⟩

/-- A choice that skips an operand which is too deep and holds a literal that writes no number. It
needs four levels, and it fails under a limit of three. -/
theorem depth_limit_is_exact_of_choice :
    let text := "+(?:(n:0,-(-(-(n:x))),-(n:2)),n:7)".toList
    let wide : Limits := ⟨0, 100⟩
    (evaluateEncoded wide text).outcome = .ok (.number (Float.ofNat 5)) ∧
      evaluateEncoded ⟨0, 4⟩ text = evaluateEncoded wide text ∧
      (evaluateEncoded ⟨0, 3⟩ text).outcome = .error (.tooDeep 3) := by
  intro text wide
  have value : (evaluateEncoded wide text).outcome = .ok (.number (Float.ofNat 5)) := by
    decide +kernel
  have unbound : ¬ (evaluateEncoded wide text).EndsByDepth := by
    rintro ⟨limit, failed⟩
    cases value.symm.trans failed
  have records : (evaluateEncoded wide text).records =
      [.entered 1 text, .entered 2 "?:(n:0,-(-(-(n:x))),-(n:2))".toList, .entered 3 "n:0".toList,
        .entered 3 "-(n:2)".toList, .entered 4 "n:2".toList, .entered 2 "n:7".toList] := by
    decide +kernel
  have within : ¬ (evaluateEncoded wide text).EntersBeyond 4 := by
    rintro ⟨level, part, entered, beyond⟩
    simp only [records, List.mem_cons, Record.entered.injEq, List.not_mem_nil, or_false] at entered
    omega
  have exceeds : (evaluateEncoded wide text).EntersBeyond 3 :=
    ⟨4, "n:2".toList, by rw [records]; decide, by decide⟩
  refine ⟨value, ?_, ?_⟩
  · exact ((depth_limit_is_exact ⟨0, 4⟩ wide).2.1 text unbound).1 within
  · exact ((depth_limit_is_exact ⟨0, 3⟩ wide).2.1 text unbound).2.1 exceeds

end Calculator
