import Calculator.Run
import Calculator.Proofs.Encoding.Decoding
import Calculator.Proofs.Evaluation.Views
import Calculator.Proofs.Expr.Acceptance
import Calculator.Proofs.Token.Scan

/-!
# Source text by way of its encoded form

The expression that source text is may be encoded, kept as text, and read again.
Nothing is lost: under the limits that let the source text pass, the encoded form
decodes to the expression, and it evaluates as the expression does and as the
source text runs (`run_by_way_of_encoding`).

The stages agree on two things. The literals of a parsed expression are number
tokens, which have the form that the decoder demands (`literalForm_of_parse`). The
depth that the parser allows is the depth that the decoder allows.
-/

set_option autoImplicit false

namespace Calculator

variable {limits : Limits} {source : List Char} {tokens : List Located} {expr : Expr}

/-- The literals of an expression that is parsed from source text are well-formed. -/
theorem literalForm_of_parse (scanned : (tokenize source).outcome = .ok tokens)
    (parsed : (parse limits tokens).outcome = .ok expr) :
    ∀ digits ∈ expr.literals, Number.LiteralForm digits := by
  intro digits member
  obtain ⟨nesting, derives, _⟩ := Parse.exists_derives_of_parse parsed
  obtain ⟨located, within, number⟩ :=
    List.mem_map.mp (derives.mem_literals_iff.mp member)
  rw [tokens_of_outcome_tokenize scanned] at within
  exact literalForm_of_mem_scan within number

/-- A well-formed literal can be told apart from the marks of the encoding. -/
theorem legible_of_literalForm {digits : List Char} (form : Number.LiteralForm digits) :
    Legible digits := by
  have visible := visible_of_literalForm form
  refine ⟨fun c member => (visible c (by simp [member])).2, fun c last => ?_⟩
  exact (visible c (by simp [List.mem_of_getLast? last])).1

/-- Source text parses to an expression when its tokens do. -/
theorem parseSource_eq_ok_iff :
    parseSource limits source = .ok expr ↔
      ∃ tokens, (tokenize source).outcome = .ok tokens ∧
        (parse limits tokens).outcome = .ok expr := by
  unfold parseSource
  simp only [bind_eq_ok_iff, mapError_eq_ok_iff]

/-- Source text that is not an expression fails as its tokens do, or else as their parsing does. -/
theorem parseSource_eq_error_iff {failure : Failure} :
    parseSource limits source = .error failure ↔
      (∃ error, (tokenize source).outcome = .error error ∧ .scan error = failure) ∨
        ∃ tokens, (tokenize source).outcome = .ok tokens ∧
          ∃ error, (parse limits tokens).outcome = .error error ∧ .parse error = failure := by
  unfold parseSource
  simp only [bind_eq_error_iff, mapError_eq_ok_iff, mapError_eq_error_iff]

theorem literalForm_of_parseSource (parsed : parseSource limits source = .ok expr) :
    ∀ digits ∈ expr.literals, Number.LiteralForm digits := by
  obtain ⟨_, scanned, parsed⟩ := parseSource_eq_ok_iff.mp parsed
  exact literalForm_of_parse scanned parsed

/-- The encoded form of an expression that source text is has no blanks, so that it is one line. -/
theorem visible_of_parseSource (parsed : parseSource limits source = .ok expr) :
    ∀ c ∈ expr.encode, Text.isBlank c = false := by
  rw [(encodes_encode (literalForm_of_parseSource parsed)).encode_eq_withoutBlanks,
    Text.withoutBlanks]
  intro c member
  simpa using (List.mem_filter.mp member).2

/-- The outcome of a run is the outcome of evaluating the expression that the source text is. -/
theorem outcome_run (limits : Limits) (source : List Char) :
    (run limits source).outcome =
      parseSource limits source >>= fun expr => (evaluate limits expr).outcome.mapError .eval := by
  have afterRecord (next : Unit → Except Failure Value) : .ok () >>= next = next () := rfl
  have finish (outcome : Except Failure Value) : outcome >>= .ok = outcome := bind_pure outcome
  simp only [run, parseSource, Traced.outcome_bind, Traced.outcome_mapError, Traced.outcome_log,
    Traced.outcome_pure, afterRecord, finish, bind_assoc]

/-- A run that reaches evaluation has its outcome. -/
theorem outcome_run_of_parse (scanned : (tokenize source).outcome = .ok tokens)
    (parsed : (parse limits tokens).outcome = .ok expr) :
    (run limits source).outcome = (evaluate limits expr).outcome.mapError .eval := by
  rw [outcome_run, parseSource_eq_ok_iff.mpr ⟨tokens, scanned, parsed⟩]
  rfl

/-- **The encoded form carries the whole calculation.** If source text is read and parsed under some
limits, its encoded form decodes under the same limits to the expression that was parsed, evaluates
as the expression does, and evaluates as the source text runs, whether that is to a value or to an
error. -/
theorem run_by_way_of_encoding (limits : Limits) (source : List Char) (tokens : List Located)
    (expr : Expr) (scanned : (tokenize source).outcome = .ok tokens)
    (parsed : (parse limits tokens).outcome = .ok expr) :
    Encoding.decode limits expr.encode = .ok expr ∧
      (evaluateEncoded limits expr.encode).outcome = (evaluate limits expr).outcome ∧
      (run limits source).outcome =
        (evaluateEncoded limits expr.encode).outcome.mapError .eval := by
  have form := literalForm_of_parse scanned parsed
  obtain ⟨_, _, _, shallow⟩ := Parse.exists_derives_of_parse parsed
  have same : evaluateEncoded limits expr.encode = evaluate limits expr :=
    evaluateAt_encoded_encode (fun digits member => legible_of_literalForm (form digits member))
      limits 1
  refine ⟨Encoding.decodeAt_of_encodes (encodes_encode form) (by omega), by rw [same], ?_⟩
  rw [same]
  exact outcome_run_of_parse scanned parsed

/-- A source text that runs into a division by zero, under limits that it just meets. -/
theorem run_by_way_of_encoding_of_division :
    let source := "-1 / (3-3)".toList
    let tokens : List Located := [⟨.operator .subtract, 0⟩, ⟨.number ['1'], 1⟩,
      ⟨.operator .divide, 3⟩, ⟨.openParen, 5⟩, ⟨.number ['3'], 6⟩, ⟨.operator .subtract, 7⟩,
      ⟨.number ['3'], 8⟩, ⟨.closeParen, 9⟩]
    let expr := Expr.binary .divide (.unary .minus (.literal ['1']))
      (.binary .subtract (.literal ['3']) (.literal ['3']))
    (tokenize source).outcome = .ok tokens ∧ (parse ⟨1, 3⟩ tokens).outcome = .ok expr ∧
      Encoding.decode ⟨1, 3⟩ expr.encode = .ok expr ∧
      (evaluateEncoded ⟨1, 3⟩ expr.encode).outcome = .error (.divisionByZero .divide) ∧
      (run ⟨1, 3⟩ source).outcome = .error (.eval (.divisionByZero .divide)) := by
  intro source tokens expr
  have scanned : (tokenize source).outcome = .ok tokens := by decide +kernel
  have parsed : (parse ⟨1, 3⟩ tokens).outcome = .ok expr := by cbv
  obtain ⟨decoded, same, ran⟩ := run_by_way_of_encoding ⟨1, 3⟩ source tokens expr scanned parsed
  have fails : (evaluate ⟨1, 3⟩ expr).outcome = .error (.divisionByZero .divide) := by
    decide +kernel
  rw [fails] at same
  rw [same] at ran
  exact ⟨scanned, parsed, decoded, same, ran⟩

end Calculator
