import Calculator.Encoding
import Calculator.Encoding.Split

/-!
# Reading one level of an encoded expression

`read` finds out what the outermost node of an encoded expression is and where
its operands stand. It does not look into the operands beyond the balance of
their parentheses, and it does not check the digits of a literal. Blanks may
stand around the whole, around the symbol and around each operand.
-/

set_option autoImplicit false

namespace Calculator.Encoding

/-- How many operands a symbol may have: none of the numbers if it is no operator's. -/
def acceptedCounts (symbol : List Char) : List Nat :=
  (if (UnaryOperator.ofSymbol? symbol).isSome then [1] else []) ++
    (if (BinaryOperator.ofSymbol? symbol).isSome then [2] else []) ++
    (if symbol = conditionalSymbol then [3] else [])

/-- Why a symbol does not apply to `found` operands. -/
def misapplied (symbol : List Char) (found : Nat) : EvalError :=
  match acceptedCounts symbol with
  | [] => .unknownOperator symbol
  | counts => .wrongArity symbol counts found

/-- The node of a symbol and its operands. -/
def apply (symbol : List Char) (operands : List (List Char)) :
    Except EvalError (Node (List Char)) :=
  match operands with
  | [operand] =>
      match UnaryOperator.ofSymbol? symbol with
      | some op => .ok (.unary op operand)
      | none => .error (misapplied symbol 1)
  | [left, right] =>
      match BinaryOperator.ofSymbol? symbol with
      | some op => .ok (.binary op left right)
      | none => .error (misapplied symbol 2)
  | [condition, whenTrue, whenFalse] =>
      if symbol = conditionalSymbol then .ok (.conditional condition whenTrue whenFalse)
      else .error (misapplied symbol 3)
  | operands => .error (misapplied symbol operands.length)

/-- The text before a final `)`, if there is one. -/
def beforeClose? (text : List Char) : Option (List Char) :=
  if text.getLast? = some ')' then some text.dropLast else none

/-- The outermost node of an encoded expression without blanks around it. -/
def readTrimmed (text : List Char) : Except EvalError (Node (List Char)) :=
  match text with
  | 'n' :: ':' :: digits => .ok (.literal digits)
  | text =>
      match text.dropWhile (· ≠ '(') with
      | [] => .error (.malformed text .notApplication)
      | _ :: tail =>
          match beforeClose? tail with
          | none => .error (.malformed text .unclosed)
          | some body => do
              let operands ← operands body
              if operands.any List.isEmpty then .error (.malformed text .emptyOperand)
              else apply (Text.trim (text.takeWhile (· ≠ '('))) operands

/-- The outermost node of an encoded expression. -/
def read (text : List Char) : Except EvalError (Node (List Char)) :=
  readTrimmed (Text.trim text)

theorem operands_of_apply {symbol : List Char} {found : List (List Char)}
    {node : Node (List Char)} (applied : apply symbol found = .ok node) :
    node.operands = found := by
  unfold apply at applied
  split at applied
  · split at applied
    · cases applied; rfl
    · cases applied
  · split at applied
    · cases applied; rfl
    · cases applied
  · split at applied
    · cases applied; rfl
    · cases applied
  · cases applied

theorem length_lt_of_beforeClose? {text body : List Char} (found : beforeClose? text = some body) :
    body.length < text.length := by
  unfold beforeClose? at found
  split at found
  · rename_i last
    cases found
    cases text with
    | nil => simp at last
    | cons c rest => simp
  · cases found

/-- An operand is shorter than the text that it belongs to. -/
theorem length_lt_of_read {text operand : List Char} {node : Node (List Char)}
    (found : read text = .ok node) (member : operand ∈ node.operands) :
    operand.length < text.length := by
  refine Nat.lt_of_lt_of_le ?_ (Text.length_trim_le text)
  unfold read readTrimmed at found
  split at found
  · cases found
    cases member
  · split at found
    · cases found
    · rename_i opening
      split at found
      · cases found
      · rename_i closing
        have inside := length_lt_of_beforeClose? closing
        have tail : _ ≤ (Text.trim text).length :=
          (List.dropWhile_sublist (fun c => decide (c ≠ '('))).length_le
        rw [opening, List.length_cons] at tail
        simp only [bind, Except.bind] at found
        split at found
        · cases found
        · rename_i split
          split at found
          · cases found
          · rw [operands_of_apply found] at member
            have := length_le_of_mem_operands split member
            omega

end Calculator.Encoding
