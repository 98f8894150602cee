import Calculator.Proofs.Evaluation.Failures

/-!
# Evaluation of texts that decode

An encoded expression can be evaluated as it stands, reading each operand when it
is needed, or it can be decoded as a whole and the tree evaluated. Where decoding
succeeds the two agree, however the text is padded with blanks
(`outcome_evaluateAt_of_decodeAt`): at each level the text reads as the node of the
tree, with operands that decode in their turn. The records differ, since they show
the text with its blanks.

A decoded tree has well-formed literals and an allowed depth, so that evaluation
fails by an operator if it fails. Any other failure of evaluation is one that
decoding finds too (`evaluateEncoded_of_decode`).
-/

set_option autoImplicit false

namespace Calculator

/-- **Decoding first makes no difference to the outcome.** -/
theorem outcome_evaluateAt_of_decodeAt {limits : Limits} {depth : Nat} {text : List Char}
    {expr : Expr} (decoded : Encoding.decodeAt limits depth text = .ok expr) :
    (evaluateAt .encoded limits depth text).outcome =
      (evaluateAt .tree limits depth expr).outcome := by
  induction expr using Expr.induct_operands generalizing depth text with
  | step expr ih =>
      obtain ⟨allowed, ⟨node, found, same⟩, _⟩ := Encoding.decodeAt_eq_ok_iff.mp decoded
      rw [outcome_evaluateAt_of_node allowed found, outcome_evaluateAt_of_node allowed rfl]
      exact outcome_evaluateNode_eq_of_related
        (same.imp_of_mem fun text operand member decodes => ih operand member decodes)

/-- **A text that decodes evaluates as its tree.** It has the same value or fails with the same
error, and that error is an operator's. So a text whose evaluation fails for any other reason does
not decode. -/
theorem evaluateEncoded_of_decode (limits : Limits) (text : List Char) :
    (∀ expr, Encoding.decode limits text = .ok expr →
      (evaluateEncoded limits text).outcome = (evaluate limits expr).outcome ∧
        ∀ error, (evaluate limits expr).outcome = .error error → error.OfOperator) ∧
    ∀ error, (evaluateEncoded limits text).outcome = .error error → ¬ error.OfOperator →
      ∃ reason, Encoding.decode limits text = .error reason := by
  have agrees (expr : Expr) (decoded : Encoding.decode limits text = .ok expr) :
      (evaluateEncoded limits text).outcome = (evaluate limits expr).outcome ∧
        FailsByOperator (evaluate limits expr).outcome := by
    obtain ⟨encodes, room⟩ := Encoding.encodes_of_decodeAt decoded
    exact ⟨outcome_evaluateAt_of_decodeAt decoded,
      failsByOperator_evaluateAt encodes.literalForm room⟩
  constructor
  · intro expr decoded
    obtain ⟨same, fails⟩ := agrees expr decoded
    exact ⟨same, fun error failed => fails.of_error failed⟩
  · intro error failed other
    cases decoded : Encoding.decode limits text with
    | error reason => exact ⟨reason, rfl⟩
    | ok expr =>
        obtain ⟨same, fails⟩ := agrees expr decoded
        exact absurd (fails.of_error (same.symm.trans failed)) other

/-- A choice that is padded with blanks of several kinds decodes, and runs into a division by zero
in the branch that it takes. The same choice with a literal that writes no number in this branch
does not decode. -/
theorem evaluateEncoded_of_decode_of_choice :
    let text := "\u3000?: ( n:0 ,/(n:1,n:0),\t% ( n:2.5\u00a0, n:0 ) )\n".toList
    let expr := Expr.conditional (.literal ['0'])
      (.binary .divide (.literal ['1']) (.literal ['0']))
      (.binary .modulo (.literal ['2', '.', '5']) (.literal ['0']))
    let failure := EvalError.divisionByZero .modulo
    let wrong := "\u3000?: ( n:0 ,/(n:1,n:0),\t% ( n:2.\u00a0, n:0 ) )\n".toList
    let refusal := EvalError.invalidLiteral ['2', '.']
    (Encoding.decode ⟨0, 3⟩ text = .ok expr ∧
      (evaluateEncoded ⟨0, 3⟩ text).outcome = .error failure ∧ failure.OfOperator) ∧
    (evaluateEncoded ⟨0, 3⟩ wrong).outcome = .error refusal ∧ ¬ refusal.OfOperator ∧
      ∃ reason, Encoding.decode ⟨0, 3⟩ wrong = .error reason := by
  intro text expr failure wrong refusal
  have decoded : Encoding.decode ⟨0, 3⟩ text = .ok expr := by decide +kernel
  have fails : (evaluate ⟨0, 3⟩ expr).outcome = .error failure := by decide +kernel
  have refused : (evaluateEncoded ⟨0, 3⟩ wrong).outcome = .error refusal := by decide +kernel
  have other : ¬ refusal.OfOperator := by decide
  obtain ⟨same, ofOperator⟩ := (evaluateEncoded_of_decode ⟨0, 3⟩ text).1 expr decoded
  exact ⟨⟨decoded, same.trans fails, ofOperator failure fails⟩, refused, other,
    (evaluateEncoded_of_decode ⟨0, 3⟩ wrong).2 refusal refused other⟩

end Calculator
