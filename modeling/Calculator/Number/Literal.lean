/-!
# Number literals

A literal is one or more decimal digits, optionally followed by a point and one
or more further digits. It has no sign and no exponent. Its value is the double
nearest to the decimal number that it writes.

`LiteralForm` states the form, `isLiteral` tests it, and the two agree
(`isLiteral_iff`).
-/

set_option autoImplicit false

namespace Calculator.Number

/-- The text has the form `digit+ ('.' digit+)?`. -/
def isLiteral (text : List Char) : Bool :=
  let whole := text.takeWhile Char.isDigit
  !whole.isEmpty &&
    match text.dropWhile Char.isDigit with
    | [] => true
    | '.' :: fraction => !fraction.isEmpty && fraction.all Char.isDigit
    | _ => false

/-- The text is a run of one or more decimal digits. -/
def DigitRun (text : List Char) : Prop :=
  text ≠ [] ∧ ∀ c ∈ text, c.isDigit = true

/-- The form of a literal: a run of digits, or two runs with a point between them. -/
inductive LiteralForm : List Char → Prop where
  | whole {digits : List Char} (run : DigitRun digits) : LiteralForm digits
  | fraction {before after : List Char} (first : DigitRun before) (second : DigitRun after) :
      LiteralForm (before ++ '.' :: after)

/-- A character of a literal is a digit or the point. -/
theorem LiteralForm.isDigit_or_point {text : List Char} (form : LiteralForm text) :
    ∀ c ∈ text, c.isDigit = true ∨ c = '.' := by
  intro c member
  cases form with
  | whole run => exact .inl (run.2 c member)
  | fraction first second =>
      rcases List.mem_append.mp member with inside | inside
      · exact .inl (first.2 c inside)
      · rcases List.mem_cons.mp inside with point | inside
        · exact .inr point
        · exact .inl (second.2 c inside)

/-- A literal starts with a digit. -/
theorem LiteralForm.exists_digit {text : List Char} (form : LiteralForm text) :
    ∃ first rest, text = first :: rest ∧ first.isDigit = true := by
  cases form with
  | whole run =>
      obtain ⟨first, rest, rfl⟩ := List.exists_cons_of_ne_nil run.1
      exact ⟨first, rest, rfl, run.2 first (by simp)⟩
  | fraction run _ =>
      obtain ⟨first, rest, rfl⟩ := List.exists_cons_of_ne_nil run.1
      exact ⟨first, _, rfl, run.2 first (by simp)⟩

/-- A run of digits ends where something else stands. -/
private theorem takeWhile_dropWhile_digits {run : List Char}
    (digits : ∀ c ∈ run, c.isDigit = true) (rest : List Char)
    (stops : rest.head?.all (!·.isDigit) = true) :
    (run ++ rest).takeWhile Char.isDigit = run ∧ (run ++ rest).dropWhile Char.isDigit = rest := by
  cases rest with
  | nil =>
      rw [List.takeWhile_append_of_pos digits, List.dropWhile_append_of_pos digits]
      simp
  | cons c rest =>
      have other : ¬ c.isDigit = true := by simpa using stops
      rw [List.takeWhile_append_of_pos digits, List.dropWhile_append_of_pos digits]
      simp [other]

/-- The test of a literal accepts exactly the form of a literal. -/
theorem isLiteral_iff {text : List Char} : isLiteral text = true ↔ LiteralForm text := by
  constructor
  · intro accepted
    have all : ∀ c ∈ text.takeWhile Char.isDigit, c.isDigit = true :=
      List.all_eq_true.mp List.all_takeWhile
    simp only [isLiteral, Bool.and_eq_true, Bool.not_eq_true',
      List.isEmpty_eq_false_iff] at accepted
    obtain ⟨nonempty, rest⟩ := accepted
    have whole := @List.takeWhile_append_dropWhile _ Char.isDigit text
    split at rest
    · rename_i ends
      rw [ends, List.append_nil] at whole
      exact whole ▸ .whole ⟨nonempty, all⟩
    · rename_i after point
      simp only [Bool.and_eq_true, Bool.not_eq_true', List.isEmpty_eq_false_iff,
        List.all_eq_true] at rest
      rw [point] at whole
      exact whole ▸ .fraction ⟨nonempty, all⟩ rest
    · cases rest
  · intro form
    cases form with
    | whole run =>
        have cut := takeWhile_dropWhile_digits run.2 [] rfl
        rw [List.append_nil] at cut
        simp [isLiteral, cut, run.1]
    | @fraction before after first second =>
        have cut := takeWhile_dropWhile_digits first.2 ('.' :: after) rfl
        simp only [isLiteral, cut, Bool.and_eq_true, Bool.not_eq_true', List.isEmpty_eq_false_iff,
          List.all_eq_true]
        exact ⟨first.1, second⟩

/-- The digits of a literal before its point. -/
def wholeDigits (literal : List Char) : List Char :=
  literal.takeWhile Char.isDigit

/-- The digits of a literal after its point. -/
def fractionDigits (literal : List Char) : List Char :=
  (literal.dropWhile Char.isDigit).drop 1

/-- The double nearest to the decimal number that a literal writes. -/
def ofLiteral (literal : List Char) : Float :=
  let fraction := fractionDigits literal
  Float.ofScientific (Nat.ofDigitChars 10 (wholeDigits literal ++ fraction) 0) true fraction.length

end Calculator.Number
