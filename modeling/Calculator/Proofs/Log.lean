import Calculator.Proofs.Evaluation.Failures
import Calculator.Proofs.Evaluation.Tour

/-!
# The log of a run

The records of a run that succeeds are a complete account of its work, stage by stage: one record
for each token, one for each node that the parser builds, one for each node that evaluation reaches
and one for each bitwise operation that it carries out, with a summary after each stage
(`log_is_complete`).

The order of the nodes comes from one tour of the expression. The parser builds a node when the tour
leaves it. Evaluation follows the tour through the places that are reached: it leaves a record of a
node when it enters the node, and another one when it leaves the node after a bitwise operation.
-/

set_option autoImplicit false

namespace Calculator

/-- The records of evaluation on a visit: one when it enters a node, and one when it leaves a node
after a bitwise operation. -/
def Visit.records : Visit Place → List Record
  | enter depth place => [.entered depth place.tree.encode]
  | leave _ place => place.tree.node.combined View.tree.outcome

section Records

variable {limits : Limits} {source : List Char} {tokens : List Located} {expr : Expr}
  {value : Value}

theorem records_tokenize (scanned : (tokenize source).outcome = .ok tokens) :
    (tokenize source).records = tokens.map .scanned := by
  rw [tokens_of_outcome_tokenize scanned]
  rfl

/-- A tree that is no deeper than the limit leaves the records of the tour where it is reached. -/
theorem evaluate_of_depth_le (shallow : expr.depth ≤ limits.maxDepth) :
    evaluate limits expr =
      ⟨(expr.tour.filter fun visit => visit.of.reached).flatMap Visit.records,
        View.tree.outcome expr⟩ := by
  have within (level : Nat) (part : Expr) (entered : .enter level part ∈ View.tree.visits 1 expr) :
      level ≤ limits.maxDepth :=
    Nat.le_trans (View.level_le_depth entered) shallow
  have same (visit : Visit Place) : View.tree.records (visit.map Place.tree) = visit.records := by
    cases visit <;> rfl
  rw [evaluate, evaluateAt_of_within within, expr.visits_eq_tour, List.flatMap_map]
  simp only [same]

/-- A run that succeeds leaves the records of its stages, each with a summary. -/
theorem records_run (scanned : (tokenize source).outcome = .ok tokens)
    (parsed : (parse limits tokens).outcome = .ok expr)
    (evaluated : (evaluate limits expr).outcome = .ok value) :
    (run limits source).records =
      (tokenize source).records ++ .tokenized tokens.length ::
        ((parse limits tokens).records ++ .parsed expr ::
          ((evaluate limits expr).records ++ [.evaluated value])) := by
  simp [run, Traced.records_bind, scanned, parsed, evaluated, Except.mapError, -bind_pure_comp]

end Records

/-- **The records of a run that succeeds are a complete account of its work.** They are, in this
order, the tokens and their number; the nodes of the expression that they form, in postorder, its
depth and the expression; the records of the tour of the expression where it is reached; and the
value. The nodes in postorder are those that the tour leaves. The tour visits every place of the
expression once on entering and once on leaving, and nothing else. What it reaches has a value, and
a bitwise operation that it reaches leaves one record of its operands and its result. -/
theorem log_is_complete (limits : Limits) (source : List Char) (value : Value)
    (ran : (run limits source).outcome = .ok value) :
    ∃ tokens expr, (tokenize source).outcome = .ok tokens ∧
      (parse limits tokens).outcome = .ok expr ∧
      (run limits source).records =
        tokens.map .scanned ++ .tokenized tokens.length ::
          (expr.postorder.map .folded ++ .measured expr.depth :: .parsed expr ::
            ((expr.tour.filter fun visit => visit.of.reached).flatMap Visit.records ++
              [.evaluated value])) ∧
      expr.postorder = (expr.tour.filterMap Visit.left?).map Place.tree ∧
      expr.tour.Nodup ∧
      (∀ visit, visit ∈ expr.tour ↔ visit.depth = visit.of.depth ∧ visit.of.whole = expr) ∧
      ∀ place, place.whole = expr → place.reached = true →
        ∃ result, View.tree.outcome place.tree = .ok result ∧
          ∀ op left right, place.tree = .binary op left right → op.isBitwise = true →
            ∃ value value', View.tree.outcome left = .ok value ∧
              View.tree.outcome right = .ok value' ∧
              Visit.records (.leave place.depth place) = [.combined op value value' result] := by
  obtain ⟨tokens, expr, scanned, parsed, evaluated⟩ := exists_parse_of_run_eq_ok ran
  obtain ⟨_, _, _, shallow⟩ := Parse.exists_derives_of_parse parsed
  have evaluation := evaluate_of_depth_le shallow
  have whole : View.tree.outcome expr = .ok value := by
    rw [evaluation] at evaluated
    exact evaluated
  refine ⟨tokens, expr, scanned, parsed, ?_, expr.postorder_eq_tour, expr.nodup_tour,
    fun _ => Expr.mem_tour_iff, fun place inside reached => ?_⟩
  · rw [records_run scanned parsed evaluated, records_tokenize scanned, records_parse parsed,
      evaluation, Expr.folds]
    simp
  · obtain ⟨result, evaluated⟩ :=
      Place.exists_outcome_of_reached (inside.symm ▸ whole) reached
    refine ⟨result, evaluated, fun op left right same bitwise => ?_⟩
    rw [same] at evaluated
    obtain ⟨value, value', first, second, combined⟩ := combined_of_outcome bitwise evaluated
    refine ⟨value, value', first, second, ?_⟩
    rw [Visit.records, same]
    exact combined

/-- A choice that skips one branch and finds common bits in the other. -/
theorem log_is_complete_of_choice :
    let source := "0?1/0:5&3".toList
    (run ⟨1, 3⟩ source).outcome = .ok (.number (Float.ofNat 1)) ∧
      (run ⟨1, 3⟩ source).records.map Record.text =
        ["token 0 at 0", "token ? at 1", "token 1 at 2", "token / at 3", "token 0 at 4",
          "token : at 5", "token 5 at 6", "token & at 7", "token 3 at 8", "tokenized 9 token(s)",
          "fold n:0", "fold n:1", "fold n:0", "fold /(n:1,n:0)", "fold n:5", "fold n:3",
          "fold &(n:5,n:3)", "fold ?:(n:0,/(n:1,n:0),&(n:5,n:3))",
          "parsed expression of depth 3", "parsed ?:(n:0,/(n:1,n:0),&(n:5,n:3))",
          "eval at depth 1: ?:(n:0,/(n:1,n:0),&(n:5,n:3))", "eval at depth 2: n:0",
          "eval at depth 2: &(n:5,n:3)", "eval at depth 3: n:5", "eval at depth 3: n:3",
          "5 & 3 = 1", "evaluated to 1"] ∧
      (run ⟨1, 3⟩ source).records.map Record.level =
        List.replicate 9 .trace ++ .debug :: (List.replicate 8 .trace ++ .debug :: .debug ::
          (List.replicate 6 .trace ++ [.debug])) := by
  intro source
  let tokens : List Located := [⟨.number ['0'], 0⟩, ⟨.question, 1⟩, ⟨.number ['1'], 2⟩,
    ⟨.operator .divide, 3⟩, ⟨.number ['0'], 4⟩, ⟨.colon, 5⟩, ⟨.number ['5'], 6⟩,
    ⟨.operator .bitAnd, 7⟩, ⟨.number ['3'], 8⟩]
  let expr := Expr.conditional (.literal ['0'])
    (.binary .divide (.literal ['1']) (.literal ['0']))
    (.binary .bitAnd (.literal ['5']) (.literal ['3']))
  have scanned : (tokenize source).outcome = .ok tokens := by decide +kernel
  have parsed : (parse ⟨1, 3⟩ tokens).outcome = .ok expr := by cbv
  have ran : (run ⟨1, 3⟩ source).outcome = .ok (.number (Float.ofNat 1)) := by
    rw [outcome_run_of_parse scanned parsed]
    decide +kernel
  obtain ⟨tokens', expr', scanned', parsed', records, _⟩ := log_is_complete ⟨1, 3⟩ source _ ran
  cases scanned.symm.trans scanned'
  cases parsed.symm.trans parsed'
  rw [records]
  refine ⟨ran, ?_, ?_⟩
  · decide +kernel
  · decide +kernel

end Calculator
