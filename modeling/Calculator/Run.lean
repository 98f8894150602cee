import Calculator.Evaluation
import Calculator.Expr.Parse
import Calculator.Token.Scan

/-!
# Running source text

A run reads the tokens of source text, reads an expression from them and
evaluates it. The first stage that fails ends the run with its failure, and each
stage that succeeds leaves a record of its outcome.
-/

set_option autoImplicit false

namespace Calculator

/-- The expression that source text is. -/
def parseSource (limits : Limits) (source : List Char) : Except Failure Expr := do
  let tokens ← (tokenize source).outcome.mapError .scan
  (parse limits tokens).outcome.mapError .parse

/-- The value of source text. -/
def run (limits : Limits) (source : List Char) : Traced Failure Value := do
  let tokens ← (tokenize source).mapError .scan
  .log (.tokenized tokens.length)
  let expr ← (parse limits tokens).mapError .parse
  .log (.parsed expr)
  let value ← (evaluate limits expr).mapError .eval
  .log (.evaluated value)
  return value

end Calculator
