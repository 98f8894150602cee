import Mathlib.Data.List.Basic
import Calculator.Proofs.Token.Scan

/-!
# Tokens are the longest lexemes

Source text is read as tokens exactly when it splits into separators and lexemes, each of
which is the longest that starts at its place (`tokenize_munches`). A number is the whole
run of digits and points that starts there, and any other token is the longest symbol that
starts there (`Token.Munches`). Whether a lexeme is the longest depends on the text after
it, so that a split is stated with the rest of the text in place (`Lexes`).

**One token.** The reader of one token finds the longest lexeme where there is one
(`Token.read_eq_ok_iff`), and otherwise tells why there is none (`Token.read_eq_error_iff`).

**The whole text.** A scan goes through a part of the text that splits into lexemes, and
goes on with the rest as it would have from there (`Scan.ofText_append`). It stops at the
end of the text or where no lexeme starts (`Scan.exists_lexes`).
-/

set_option autoImplicit false

namespace Calculator

open Text (isBlank)

namespace Token

/-! ## Symbols -/

/-- A token is a number or a symbol. -/
theorem eq_number_or_mem_symbols (token : Token) :
    (∃ digits, token = .number digits) ∨ token ∈ symbols := by
  cases token with
  | number digits => exact .inl ⟨digits, rfl⟩
  | operator op => right; cases op <;> decide
  | question | colon | openParen | closeParen => right; decide

/-- A symbol is found by its text. -/
theorem ofSymbol?_eq_some_iff {symbol : List Char} {token : Token} :
    ofSymbol? symbol = some token ↔ token ∈ symbols ∧ token.text = symbol := by
  constructor
  · intro found
    exact ⟨List.mem_of_find?_eq_some found, by simpa using List.find?_some found⟩
  · rintro ⟨known, rfl⟩
    have each : ∀ token ∈ symbols, ofSymbol? token.text = some token := by decide +kernel
    exact each token known

/-- A symbol has one or two characters. -/
theorem text_of_mem_symbols {token : Token} (known : token ∈ symbols) :
    (∃ a, token.text = [a]) ∨ ∃ a b, token.text = [a, b] := by
  have each : ∀ token ∈ symbols, token.text.length = 1 ∨ token.text.length = 2 := by decide +kernel
  exact (each token known).imp List.length_eq_one_iff.mp List.length_eq_two.mp

theorem text_ne_nil_of_mem_symbols {token : Token} (known : token ∈ symbols) : token.text ≠ [] := by
  rcases text_of_mem_symbols known with ⟨a, short⟩ | ⟨a, b, long⟩ <;> simp [*]

/-- No character of a symbol belongs to a number. -/
theorem not_continuesNumber_of_mem_symbols {token : Token} (known : token ∈ symbols) :
    ∀ c ∈ token.text, continuesNumber c = false := by
  have each : ∀ token ∈ symbols, token.text.all (!continuesNumber ·) = true := by decide +kernel
  simpa using each token known

/-! ## Lexemes -/

/-- The token is the longest lexeme that starts the text `token.text ++ after`. A number is the
whole run of digits and points there. Any other token is a symbol, and no longer one starts
there. -/
inductive Munches : Token → List Char → Prop where
  | number {digits after : List Char} (form : Number.LiteralForm digits)
      (run : (digits ++ after).takeWhile continuesNumber = digits) : Munches (.number digits) after
  | symbol {token : Token} {after : List Char} (known : token ∈ symbols)
      (longest : ∀ other ∈ symbols, other.text <+: token.text ++ after →
        other.text.length ≤ token.text.length) : Munches token after

/-- A literal is a whole run where no digit and no point follows it. -/
theorem takeWhile_literal_iff {digits after : List Char} (form : Number.LiteralForm digits) :
    (digits ++ after).takeWhile continuesNumber = digits ↔
      ∀ c ∈ after.head?, continuesNumber c = false := by
  have inside : ∀ c ∈ digits, continuesNumber c = true := by
    intro c member
    rcases form.isDigit_or_point c member with digit | rfl
    · simp [continuesNumber, digit]
    · rfl
  rw [List.takeWhile_append_of_pos inside, List.append_right_eq_self]
  cases after with
  | nil => simp
  | cons c rest => simp [List.takeWhile_cons]

/-- The longest symbol is read. -/
theorem readSymbol?_eq_some_iff {text after : List Char} {token : Token} :
    readSymbol? text = some (token, after) ↔ text = token.text ++ after ∧ token ∈ symbols ∧
      ∀ other ∈ symbols, other.text <+: text → other.text.length ≤ token.text.length := by
  constructor
  · intro found
    match text with
    | [] => cases found
    | [first] =>
        obtain ⟨_, named, same⟩ := Option.map_eq_some_iff.mp found
        cases same
        obtain ⟨known, spelled⟩ := ofSymbol?_eq_some_iff.mp named
        refine ⟨by rw [spelled]; rfl, known, fun other _ starts => ?_⟩
        rw [spelled]
        exact starts.length_le
    | first :: second :: rest =>
        simp only [readSymbol?] at found
        split at found
        · rename_i named
          cases found
          obtain ⟨known, spelled⟩ := ofSymbol?_eq_some_iff.mp named
          refine ⟨by rw [spelled]; rfl, known, fun other member _ => ?_⟩
          rcases text_of_mem_symbols member with ⟨a, short⟩ | ⟨a, b, long⟩
          · simp [short, spelled]
          · simp [long, spelled]
        · rename_i noPair
          obtain ⟨_, named, same⟩ := Option.map_eq_some_iff.mp found
          cases same
          obtain ⟨known, spelled⟩ := ofSymbol?_eq_some_iff.mp named
          refine ⟨by rw [spelled]; rfl, known, fun other member starts => ?_⟩
          rcases text_of_mem_symbols member with ⟨a, short⟩ | ⟨a, b, long⟩
          · simp [short, spelled]
          · rw [long, List.cons_prefix_cons, List.cons_prefix_cons] at starts
            obtain ⟨rfl, rfl, _⟩ := starts
            rw [ofSymbol?_eq_some_iff.mpr ⟨member, long⟩] at noPair
            cases noPair
  · rintro ⟨rfl, known, longest⟩
    rcases text_of_mem_symbols known with ⟨a, short⟩ | ⟨a, b, long⟩
    · have named : ofSymbol? [a] = some token := ofSymbol?_eq_some_iff.mpr ⟨known, short⟩
      cases after with
      | nil => simp [short, readSymbol?, named]
      | cons b rest =>
          have noPair : ofSymbol? [a, b] = none := by
            cases found : ofSymbol? [a, b] with
            | none => rfl
            | some other =>
                obtain ⟨member, long⟩ := ofSymbol?_eq_some_iff.mp found
                have := longest other member (by simp [long, short])
                simp [long, short] at this
          simp [short, readSymbol?, noPair, named]
    · have named : ofSymbol? [a, b] = some token := ofSymbol?_eq_some_iff.mpr ⟨known, long⟩
      simp [long, readSymbol?, named]

/-- A lexeme does not start with a separator. -/
theorem Munches.exists_first {token : Token} {after : List Char} (munches : token.Munches after) :
    ∃ first rest, token.text = first :: rest ∧ ¬ isSeparator first = true := by
  cases munches with
  | number form _ =>
      obtain ⟨first, rest, spelled, digit⟩ := form.exists_digit
      refine ⟨first, rest, spelled, fun separator => ?_⟩
      rcases isSeparator_iff.mp separator with rfl | rfl | rfl | rfl <;> cases digit
  | symbol known _ =>
      have each : ∀ token ∈ symbols, token.text.head?.any (!isSeparator ·) = true := by
        decide +kernel
      obtain ⟨first, starts, visible⟩ := (Option.any_eq_true _ _).mp (each token known)
      obtain ⟨rest, spelled⟩ := List.head?_eq_some_iff.mp starts
      exact ⟨first, rest, spelled, by simpa using visible⟩

/-- **The longest lexeme is read.** -/
theorem read_eq_ok_iff {position : Nat} {first : Char} {rest after : List Char} {token : Token} :
    read position first rest = .ok (token, after) ↔
      first :: rest = token.text ++ after ∧ token.Munches after := by
  unfold read
  constructor
  · intro found
    split at found
    · simp only [readNumber] at found
      split at found
      · rename_i valid
        cases found
        have whole := List.takeWhile_append_dropWhile (p := continuesNumber) (l := first :: rest)
        exact ⟨whole.symm, .number (Number.isLiteral_iff.mp valid) (by rw [whole])⟩
      · split at found <;> cases found
    · split at found
      · rename_i matched
        cases found
        obtain ⟨split, known, longest⟩ := readSymbol?_eq_some_iff.mp matched
        exact ⟨split, .symbol known (split ▸ longest)⟩
      · cases found
  · rintro ⟨split, munches⟩
    cases munches with
    | @number digits _ form run =>
        obtain ⟨c, others, spelled, digit⟩ := form.exists_digit
        have same : c = first := by simp_all [Token.text]
        have tail : (first :: rest).dropWhile continuesNumber = after := by
          have whole :=
            List.takeWhile_append_dropWhile (p := continuesNumber) (l := digits ++ after)
          rw [run] at whole
          exact split ▸ List.append_cancel_left whole
        have head : (first :: rest).takeWhile continuesNumber = digits := split ▸ run
        rw [if_pos (same ▸ digit), readNumber]
        simp only [head, tail, Number.isLiteral_iff.mpr form, if_true]
    | symbol known longest =>
        have noDigit : ¬ first.isDigit = true := by
          intro digit
          obtain ⟨c, others, spelled⟩ :=
            List.exists_cons_of_ne_nil (text_ne_nil_of_mem_symbols known)
          have other := not_continuesNumber_of_mem_symbols known c (by simp [spelled])
          have same : first = c := by simp_all
          simp [continuesNumber, ← same, digit] at other
        rw [if_neg noDigit, readSymbol?_eq_some_iff.mpr ⟨split, known, split ▸ longest⟩]

/-- A run of digits and points that has one point, at its end. -/
def EndsAtItsPoint (run : List Char) : Prop :=
  ∃ before, run = before ++ ['.'] ∧ '.' ∉ before

theorem endsAtPoint_iff {run : List Char} : endsAtPoint run = true ↔ EndsAtItsPoint run := by
  simp only [endsAtPoint, Bool.and_eq_true, decide_eq_true_eq, List.getLast?_eq_some_iff,
    EndsAtItsPoint]
  constructor
  · rintro ⟨⟨before, rfl⟩, once⟩
    exact ⟨before, rfl, by simpa [List.count_eq_zero] using once⟩
  · rintro ⟨before, rfl, others⟩
    exact ⟨⟨before, rfl⟩, by simpa [List.count_eq_zero] using others⟩

/-- Why no lexeme starts with the character at the position, given the text after it. -/
inductive Offends (position : Nat) (first : Char) (rest : List Char) : ScanError → Prop where
  | incomplete (mark : first = '=' ∨ first = '!') :
      Offends position first rest (.incompleteOperator first position)
  | unfinished (digit : first.isDigit = true)
      (cutOff : EndsAtItsPoint ((first :: rest).takeWhile continuesNumber))
      (ends : ∀ c ∈ (first :: rest).dropWhile continuesNumber, isBlank c = true) :
      Offends position first rest
        (.unfinishedNumber ((first :: rest).takeWhile continuesNumber) position)
  | malformed (digit : first.isDigit = true)
      (other : ¬ (EndsAtItsPoint ((first :: rest).takeWhile continuesNumber) ∧
        ∀ c ∈ (first :: rest).dropWhile continuesNumber, isBlank c = true)) :
      Offends position first rest
        (.malformedNumber ((first :: rest).takeWhile continuesNumber) position)
  | unrecognized (noDigit : ¬ first.isDigit = true) (noMark : ¬ (first = '=' ∨ first = '!')) :
      Offends position first rest (.unrecognized first position)

variable {position : Nat} {first : Char} {rest : List Char} {error error' : ScanError}

/-- There is one reason. -/
theorem Offends.unique (offends : Offends position first rest error)
    (offends' : Offends position first rest error') : error = error' := by
  have noDigit : first = '=' ∨ first = '!' → ¬ first.isDigit = true := by
    rintro (rfl | rfl) <;> decide
  cases offends <;> cases offends' <;> first | rfl | grind

/-- A token that cannot be read has a reason. -/
theorem offends_of_read (failed : read position first rest = .error error) :
    Offends position first rest error := by
  unfold read at failed
  split at failed
  · rename_i digit
    simp only [readNumber] at failed
    split at failed
    · cases failed
    · split at failed
      · rename_i cutOff
        cases failed
        rw [Bool.and_eq_true, endsAtPoint_iff, List.all_eq_true] at cutOff
        exact .unfinished digit cutOff.1 cutOff.2
      · rename_i other
        cases failed
        rw [Bool.and_eq_true, endsAtPoint_iff, List.all_eq_true] at other
        exact .malformed digit other
  · rename_i noDigit
    split at failed
    · cases failed
    · cases failed
      unfold unreadable
      split
      · rename_i mark
        exact .incomplete mark
      · rename_i noMark
        exact .unrecognized noDigit noMark

/-- **Where no lexeme starts, the reader fails and tells why.** -/
theorem read_eq_error_iff :
    read position first rest = .error error ↔
      (∀ (token : Token) (after : List Char), first :: rest = token.text ++ after →
        ¬ token.Munches after) ∧
      Offends position first rest error := by
  constructor
  · intro failed
    refine ⟨fun token after split munches => ?_, offends_of_read failed⟩
    cases failed.symm.trans (read_eq_ok_iff.mpr ⟨split, munches⟩)
  · rintro ⟨none, offends⟩
    cases found : read position first rest with
    | ok pair =>
        obtain ⟨split, munches⟩ := read_eq_ok_iff.mp found
        exact absurd munches (none _ _ split)
    | error error' => rw [offends.unique (offends_of_read found)]

end Token

/-! ## Splits of a text -/

/-- The text splits into separators and the tokens, which are the longest lexemes that start at
their positions where `rest` follows the text. The text starts at `position`. -/
inductive Lexes (rest : List Char) : Nat → List Char → List Located → Prop where
  | gap {position : Nat} {gap : List Char} (skipped : ∀ c ∈ gap, isSeparator c = true) :
      Lexes rest position gap []
  | token {position : Nat} {gap after : List Char} {token : Token} {tokens : List Located}
      (skipped : ∀ c ∈ gap, isSeparator c = true) (munches : token.Munches (after ++ rest))
      (later : Lexes rest (position + byteLength gap + byteLength token.text) after tokens) :
      Lexes rest position (gap ++ token.text ++ after)
        (⟨token, position + byteLength gap⟩ :: tokens)

/-- What is the longest lexeme in front of a text is it in front of a beginning of the text. -/
theorem Token.Munches.of_append {token : Token} {after rest : List Char}
    (munches : token.Munches (after ++ rest)) : token.Munches after := by
  cases munches with
  | number form run =>
      rw [Token.takeWhile_literal_iff form] at run
      refine .number form ((Token.takeWhile_literal_iff form).mpr fun c member => run c ?_)
      rw [List.head?_append, Option.mem_def.mp member]
      rfl
  | symbol known longest =>
      refine .symbol known fun other member starts => longest other member ?_
      rw [← List.append_assoc]
      exact starts.trans (List.prefix_append _ _)

/-- What is split where something follows is split where nothing does. -/
theorem Lexes.alone {rest text : List Char} {position : Nat} {tokens : List Located}
    (lexes : Lexes rest position text tokens) : Lexes [] position text tokens := by
  induction lexes with
  | gap skipped => exact .gap skipped
  | token skipped munches _ ih => exact .token skipped (by simpa using munches.of_append) ih

/-- A separator is one byte. -/
theorem byteLength_cons_of_separator {c : Char} (separator : isSeparator c = true)
    (text : List Char) : byteLength (c :: text) = byteLength text + 1 := by
  have one : c.utf8Size = 1 := by
    rcases isSeparator_iff.mp separator with rfl | rfl | rfl | rfl <;> rfl
  rw [byteLength, List.foldr_cons, one, ← byteLength, Nat.add_comm]

namespace Scan

/-- Separators are skipped. -/
theorem ofText_skip {gap : List Char} (skipped : ∀ c ∈ gap, isSeparator c = true) (position : Nat)
    (text : List Char) :
    ofText position (gap ++ text) = ofText (position + byteLength gap) text := by
  induction gap generalizing position with
  | nil => rfl
  | cons c gap ih =>
      obtain ⟨separator, others⟩ := List.forall_mem_cons.mp skipped
      rw [List.cons_append, ofText_of_separator separator, ih others,
        byteLength_cons_of_separator separator, Nat.add_comm (byteLength gap), Nat.add_assoc]

/-- A scan finds the longest lexeme that starts a text. -/
theorem ofText_of_munches {token : Token} {after : List Char} (munches : token.Munches after)
    (position : Nat) :
    ofText position (token.text ++ after) =
      ⟨⟨token, position⟩ :: (ofText (position + byteLength token.text) after).tokens,
        (ofText (position + byteLength token.text) after).failure⟩ := by
  obtain ⟨first, rest, spelled, visible⟩ := munches.exists_first
  have found : Token.read position first (rest ++ after) = .ok (token, after) :=
    Token.read_eq_ok_iff.mpr ⟨by rw [spelled]; rfl, munches⟩
  rw [← ofText_of_read_ok visible found, spelled]
  rfl

/-- **A scan of a split text.** It finds the tokens of the split and goes on with the rest. -/
theorem ofText_append {rest text : List Char} {position : Nat} {tokens : List Located}
    (lexes : Lexes rest position text tokens) :
    ofText position (text ++ rest) =
      ⟨tokens ++ (ofText (position + byteLength text) rest).tokens,
        (ofText (position + byteLength text) rest).failure⟩ := by
  induction lexes with
  | gap skipped => exact ofText_skip skipped _ _
  | @token position gap after token tokens skipped munches _ ih =>
      rw [List.append_assoc, List.append_assoc, ofText_skip skipped, ofText_of_munches munches, ih]
      simp only [List.cons_append, byteLength_append, Nat.add_assoc]

end Scan

/-- A separator in front of a split text belongs to its first gap. -/
theorem Lexes.separator {rest text : List Char} {position : Nat} {tokens : List Located}
    {first : Char} (separator : isSeparator first = true)
    (lexes : Lexes rest (position + 1) text tokens) :
    Lexes rest position (first :: text) tokens := by
  cases lexes with
  | gap skipped => exact .gap (List.forall_mem_cons.mpr ⟨separator, skipped⟩)
  | @token _ gap after token tokens skipped munches later =>
      have place : position + 1 + byteLength gap = position + byteLength (first :: gap) := by
        rw [byteLength_cons_of_separator separator]
        omega
      rw [place] at later ⊢
      exact .token (List.forall_mem_cons.mpr ⟨separator, skipped⟩) munches later

namespace Scan

/-- Where a scan stops: at the end of the text, or at a character that separates nothing and that
no token starts with. -/
inductive Stops (position : Nat) : List Char → Option ScanError → Prop where
  | ending : Stops position [] none
  | failure {first : Char} {rest : List Char} {error : ScanError}
      (visible : isSeparator first = false)
      (failed : Token.read position first rest = .error error) :
      Stops position (first :: rest) (some error)

/-- **A scan splits the text.** It finds the tokens of a split of the text up to where it stops. -/
theorem exists_lexes (position : Nat) (text : List Char) :
    ∃ before rest, text = before ++ rest ∧
      Lexes rest position before (ofText position text).tokens ∧
        Stops (position + byteLength before) rest (ofText position text).failure := by
  induction position, text using Scan.ofText.induct with
  | case1 position =>
      rw [ofText]
      exact ⟨[], [], rfl, .gap (List.forall_mem_nil _), .ending⟩
  | case2 position first rest separator ih =>
      obtain ⟨before, after, rfl, lexes, stops⟩ := ih
      have place : position + 1 + byteLength before = position + byteLength (first :: before) := by
        rw [byteLength_cons_of_separator separator]
        omega
      rw [ofText_of_separator separator]
      exact ⟨first :: before, after, rfl, lexes.separator separator, place ▸ stops⟩
  | case3 position first rest visible error failed =>
      rw [ofText_of_read_error visible failed]
      exact ⟨[], first :: rest, rfl, .gap (List.forall_mem_nil _),
        .failure (by simpa using visible) failed⟩
  | case4 position first rest visible token after found ih =>
      obtain ⟨before, later, rfl, lexes, stops⟩ := ih
      obtain ⟨split, munches⟩ := Token.read_eq_ok_iff.mp found
      rw [ofText_of_read_ok visible found]
      refine ⟨token.text ++ before, later, by rw [split, List.append_assoc], ?_, ?_⟩
      · exact .token (List.forall_mem_nil _) munches lexes
      · rw [byteLength_append, ← Nat.add_assoc]
        exact stops

end Scan

/-- A text that splits into tokens is read as these. -/
theorem outcome_tokenize_of_lexes {text : List Char} {tokens : List Located}
    (lexes : Lexes [] 0 text tokens) : (tokenize text).outcome = .ok tokens := by
  have scanned := Scan.ofText_append lexes
  rw [List.append_nil, Scan.ofText, List.append_nil] at scanned
  exact outcome_tokenize_eq_ok_iff.mpr (by rw [scanned]; exact ⟨rfl, rfl⟩)

/-- **Source text is read as its longest lexemes.** It is read as tokens if and only if it splits
into separators and these tokens, each at the position where it starts and each the longest lexeme
there. Otherwise reading fails at the first character that is no separator and that no lexeme starts
with, for the reason that `Token.Offends` states. The text before that character splits into tokens,
and on its own it is read as these. -/
theorem tokenize_munches (source : List Char) :
    (∀ tokens, (tokenize source).outcome = .ok tokens ↔ Lexes [] 0 source tokens) ∧
    ∀ error, (tokenize source).outcome = .error error ↔
      ∃ before first rest tokens, source = before ++ first :: rest ∧
        Lexes (first :: rest) 0 before tokens ∧ (tokenize before).outcome = .ok tokens ∧
        isSeparator first = false ∧
        (∀ (token : Token) (after : List Char), first :: rest = token.text ++ after →
          ¬ token.Munches after) ∧
        Token.Offends (byteLength before) first rest error := by
  obtain ⟨before, rest, rfl, lexes, stops⟩ := Scan.exists_lexes 0 source
  constructor
  · refine fun tokens => ⟨fun scanned => ?_, outcome_tokenize_of_lexes⟩
    obtain ⟨rfl, ends⟩ := outcome_tokenize_eq_ok_iff.mp scanned
    rw [ends] at stops
    cases stops
    simpa using lexes
  · refine fun error => ⟨fun failed => ?_, ?_⟩
    · rw [outcome_tokenize_eq_error_iff.mp failed] at stops
      cases stops with
      | failure visible failed =>
          rw [Nat.zero_add] at failed
          obtain ⟨none, offends⟩ := Token.read_eq_error_iff.mp failed
          exact ⟨before, _, _, _, rfl, lexes, outcome_tokenize_of_lexes lexes.alone, visible, none,
            offends⟩
    · rintro ⟨before', first, later, tokens, split, lexes', _, visible, none, offends⟩
      have failed := Token.read_eq_error_iff.mpr ⟨none, offends⟩
      have scanned := Scan.ofText_append lexes'
      rw [Nat.zero_add, ← split, Scan.ofText_of_read_error (by simp [visible]) failed] at scanned
      rw [outcome_tokenize_eq_error_iff, scanned]

/-- In `2<<=7` the longest lexeme after the number is `<<`, not `<=`, and no lexeme starts with the
`=` that is left. -/
example : (tokenize ['2', '<', '<', '=', '7']).outcome = .error (.incompleteOperator '=' 3) := by
  decide +kernel

end Calculator
