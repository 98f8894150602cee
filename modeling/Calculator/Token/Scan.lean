import Calculator.Number.Literal
import Calculator.Text.Blank
import Calculator.Traced
import Calculator.Failure

/-!
# Reading tokens from source text

Source text is read from left to right. Separators between tokens are skipped; at
any other place the longest token that starts there is read. A number is the
whole run of digits and points, so that a run that is no literal is an error and
never split. A scan holds the tokens before the first failure and that failure.
-/

set_option autoImplicit false

namespace Calculator

/-- The character separates tokens and is otherwise ignored. -/
def isSeparator (c : Char) : Bool :=
  c = ' ' || c = '\t' || c = '\r' || c = '\n'

/-- The character continues a number. -/
def continuesNumber (c : Char) : Bool :=
  c.isDigit || c = '.'

/-- A run of digits and points that lacks only the digits after its one point. -/
def endsAtPoint (run : List Char) : Bool :=
  run.getLast? = some '.' && run.count '.' = 1

/-- The number of bytes of a text in UTF-8. -/
def byteLength (text : List Char) : Nat :=
  text.foldr (fun c size => c.utf8Size + size) 0

namespace Token

/-- The number that starts a text at `position`, and the text after it. -/
def readNumber (position : Nat) (text : List Char) : Except ScanError (Token × List Char) :=
  let run := text.takeWhile continuesNumber
  let rest := text.dropWhile continuesNumber
  if Number.isLiteral run then .ok (.number run, rest)
  else if endsAtPoint run && rest.all Text.isBlank then .error (.unfinishedNumber run position)
  else .error (.malformedNumber run position)

/-- The longest symbol that starts a text, and the text after it. No symbol has more than two
characters. -/
def readSymbol? : List Char → Option (Token × List Char)
  | [] => none
  | [first] => (ofSymbol? [first]).map (·, [])
  | first :: second :: rest =>
      match ofSymbol? [first, second] with
      | some token => some (token, rest)
      | none => (ofSymbol? [first]).map (·, second :: rest)

/-- Why no token starts with a character. -/
def unreadable (position : Nat) (c : Char) : ScanError :=
  if c = '=' ∨ c = '!' then .incompleteOperator c position else .unrecognized c position

/-- The token that starts the text `first :: rest` at `position`, and the text after it. -/
def read (position : Nat) (first : Char) (rest : List Char) :
    Except ScanError (Token × List Char) :=
  if first.isDigit then readNumber position (first :: rest)
  else match readSymbol? (first :: rest) with
    | some found => .ok found
    | none => .error (unreadable position first)

theorem length_lt_of_readSymbol? {text rest : List Char} {token : Token}
    (found : readSymbol? text = some (token, rest)) : rest.length < text.length := by
  match text with
  | [] => simp [readSymbol?] at found
  | [first] =>
      simp only [readSymbol?, Option.map_eq_some_iff, Prod.mk.injEq] at found
      obtain ⟨_, _, _, rfl⟩ := found
      simp
  | first :: second :: tail =>
      simp only [readSymbol?] at found
      split at found
      · simp only [Option.some.injEq, Prod.mk.injEq] at found
        obtain ⟨_, rfl⟩ := found
        simp only [List.length_cons]
        omega
      · simp only [Option.map_eq_some_iff, Prod.mk.injEq] at found
        obtain ⟨_, _, _, rfl⟩ := found
        simp

/-- A token takes at least its first character. -/
theorem length_lt_of_read {position : Nat} {first : Char} {rest after : List Char} {token : Token}
    (found : read position first rest = .ok (token, after)) :
    after.length < (first :: rest).length := by
  unfold read at found
  split at found
  · rename_i digit
    have starts : continuesNumber first = true := by simp [continuesNumber, digit]
    simp only [readNumber, List.dropWhile_cons, starts, if_true] at found
    split at found
    · cases found
      have := (List.dropWhile_sublist (l := rest) continuesNumber).length_le
      simp only [List.length_cons]
      omega
    · split at found <;> cases found
  · split at found
    · rename_i pair matched
      cases found
      exact length_lt_of_readSymbol? matched
    · cases found

end Token

/-- The tokens of a text before the first failure, and that failure if there is one. -/
structure Scan where
  tokens : List Located
  failure : Option ScanError
deriving Repr, DecidableEq

/-- Reads the tokens of a text that starts at `position`. -/
def Scan.ofText (position : Nat) : List Char → Scan
  | [] => ⟨[], none⟩
  | first :: rest =>
      if isSeparator first then ofText (position + 1) rest
      else match _found : Token.read position first rest with
        | .error error => ⟨[], some error⟩
        | .ok (token, after) =>
            let later := ofText (position + byteLength token.text) after
            ⟨⟨token, position⟩ :: later.tokens, later.failure⟩
termination_by text => text.length
decreasing_by
  · simp
  · exact Token.length_lt_of_read _found

/-- The tokens of source text. Each token that is read leaves a record. -/
def tokenize (source : List Char) : Traced ScanError (List Located) :=
  let scan := Scan.ofText 0 source
  ⟨scan.tokens.map .scanned,
    match scan.failure with
    | some error => .error error
    | none => .ok scan.tokens⟩

end Calculator
