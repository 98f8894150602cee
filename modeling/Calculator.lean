import Calculator.Encoding.Grammar
import Calculator.Main
import Calculator.Proofs.Text.Padding
import Calculator.Proofs.Encoding.Application
import Calculator.Proofs.Encoding.Decoding
import Calculator.Proofs.Evaluation.Decoded
import Calculator.Proofs.Evaluation.DepthLimit
import Calculator.Proofs.Evaluation.Failures
import Calculator.Proofs.Evaluation.Views
import Calculator.Proofs.Expr.Acceptance
import Calculator.Proofs.RoundTrip
import Calculator.Proofs.Evaluation.Skipped
import Calculator.Proofs.Expr.Blame
import Calculator.Proofs.Expr.Nesting
import Calculator.Proofs.Tightening
import Calculator.Proofs.Token.Lexemes
import Calculator.Proofs.Token.Spelling
import Calculator.Proofs.Expr.Infix
import Calculator.Proofs.Evaluation.Kinds
import Calculator.Proofs.Evaluation.Bitwise
import Calculator.Proofs.Log
import Calculator.Proofs.Evaluation.Chains
import Calculator.Proofs.Token.Separation
import Calculator.Proofs.Evaluation.Shifts
import Calculator.Proofs.CommandLine
import Calculator.Proofs.Encoding.Arity
import Calculator.Proofs.Expr.Renaming
import Calculator.Proofs.Expr.Session
import Calculator.Proofs.Encoding.Extents
import Calculator.Proofs.Evaluation.Work
import Calculator.Proofs.Encoding.Splitting
