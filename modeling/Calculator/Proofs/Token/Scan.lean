import Calculator.Token.Scan
import Calculator.Proofs.Outcome

/-!
# Tokens of source text

Every number token that a scan finds is a literal (`literalForm_of_mem_scan`). So
source text never gives the parser, and the parser never gives evaluation, digits
that write no number.
-/

set_option autoImplicit false

namespace Calculator

theorem isSeparator_iff {c : Char} :
    isSeparator c = true ↔ c = ' ' ∨ c = '\t' ∨ c = '\r' ∨ c = '\n' := by
  simp [isSeparator, or_assoc]

theorem byteLength_append (first second : List Char) :
    byteLength (first ++ second) = byteLength first + byteLength second := by
  induction first with
  | nil => simp [byteLength]
  | cons c rest ih =>
      simp only [byteLength, List.cons_append, List.foldr_cons] at ih ⊢
      omega

namespace Token

/-- A symbol is not written by a number token. -/
theorem ofSymbol?_ne_number {symbol digits : List Char} :
    ofSymbol? symbol ≠ some (.number digits) := by
  intro found
  have member := List.mem_of_find?_eq_some found
  simp [symbols] at member

/-- What starts a text as a symbol is no number token. -/
theorem readSymbol?_ne_number {text rest digits : List Char} :
    readSymbol? text ≠ some (.number digits, rest) := by
  have other {symbol after : List Char} :
      (ofSymbol? symbol).map (·, after) ≠ some (.number digits, rest) := by
    intro found
    obtain ⟨token, named, same⟩ := Option.map_eq_some_iff.mp found
    cases same
    exact ofSymbol?_ne_number named
  intro found
  match text with
  | [] => cases found
  | [first] => exact other found
  | first :: second :: rest =>
      simp only [readSymbol?] at found
      split at found
      · rename_i token named
        cases found
        exact ofSymbol?_ne_number named
      · exact other found

/-- A number token is read only where its text is a literal. -/
theorem literalForm_of_read {position : Nat} {first : Char} {rest after digits : List Char}
    (found : read position first rest = .ok (.number digits, after)) :
    Number.LiteralForm digits := by
  unfold read at found
  split at found
  · simp only [readNumber] at found
    split at found
    · rename_i valid
      cases found
      exact Number.isLiteral_iff.mp valid
    · split at found <;> cases found
  · split at found
    · rename_i pair matched
      cases found
      exact absurd matched readSymbol?_ne_number
    · cases found

end Token

namespace Scan

/-! ## One step of a scan -/

theorem ofText_of_separator {position : Nat} {first : Char} {rest : List Char}
    (separator : isSeparator first = true) :
    ofText position (first :: rest) = ofText (position + 1) rest := by
  rw [ofText, if_pos separator]

/-- A scan ends where no token can be read. -/
theorem ofText_of_read_error {position : Nat} {first : Char} {rest : List Char} {error : ScanError}
    (visible : ¬ isSeparator first = true)
    (failed : Token.read position first rest = .error error) :
    ofText position (first :: rest) = ⟨[], some error⟩ := by
  rw [ofText, if_neg visible]
  split
  · rename_i failed'
    cases failed.symm.trans failed'
    rfl
  · rename_i found
    cases failed.symm.trans found

/-- A scan goes on after a token. -/
theorem ofText_of_read_ok {position : Nat} {first : Char} {rest after : List Char} {token : Token}
    (visible : ¬ isSeparator first = true)
    (found : Token.read position first rest = .ok (token, after)) :
    ofText position (first :: rest) =
      ⟨⟨token, position⟩ :: (ofText (position + byteLength token.text) after).tokens,
        (ofText (position + byteLength token.text) after).failure⟩ := by
  rw [ofText, if_neg visible]
  split
  · rename_i failed
    cases found.symm.trans failed
  · rename_i found'
    cases found.symm.trans found'
    rfl

end Scan

/-- **Every number token of a text is a literal.** -/
theorem literalForm_of_mem_scan {position : Nat} {text : List Char} {located : Located}
    {digits : List Char} (member : located ∈ (Scan.ofText position text).tokens)
    (number : located.token = .number digits) : Number.LiteralForm digits := by
  induction position, text using Scan.ofText.induct with
  | case1 position => simp [Scan.ofText] at member
  | case2 position first rest separator ih =>
      rw [Scan.ofText_of_separator separator] at member
      exact ih member
  | case3 position first rest visible error failed =>
      rw [Scan.ofText_of_read_error visible failed] at member
      cases member
  | case4 position first rest visible token after found ih =>
      rw [Scan.ofText_of_read_ok visible found] at member
      rcases List.mem_cons.mp member with rfl | member
      · cases number
        exact Token.literalForm_of_read found
      · exact ih member

/-- A text is read as tokens when its scan finds these and does not fail. -/
theorem outcome_tokenize_eq_ok_iff {source : List Char} {tokens : List Located} :
    (tokenize source).outcome = .ok tokens ↔
      (Scan.ofText 0 source).tokens = tokens ∧ (Scan.ofText 0 source).failure = none := by
  simp only [tokenize]
  cases (Scan.ofText 0 source).failure with
  | none => simp
  | some error => simp

/-- Reading fails as the scan does. -/
theorem outcome_tokenize_eq_error_iff {source : List Char} {error : ScanError} :
    (tokenize source).outcome = .error error ↔ (Scan.ofText 0 source).failure = some error := by
  simp only [tokenize]
  cases (Scan.ofText 0 source).failure with
  | none => simp
  | some error => simp

/-- The tokens of a text that can be read are those of its scan. -/
theorem tokens_of_outcome_tokenize {source : List Char} {tokens : List Located}
    (scanned : (tokenize source).outcome = .ok tokens) :
    tokens = (Scan.ofText 0 source).tokens :=
  (outcome_tokenize_eq_ok_iff.mp scanned).1.symm

end Calculator
