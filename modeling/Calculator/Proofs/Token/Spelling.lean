import Calculator.Proofs.Expr.Outline
import Calculator.Proofs.Token.Lexemes

/-!
# Tokens written with or without separators

Tokens may be written with any separators in front of each and after the last, or with
none (`Spells`). Tokens that may follow each other in an expression are read back from every
such text (`exists_lexes_of_spells`), since they do not run together: what comes after an
operator or an open parenthesis starts with no character that makes a longer symbol, and what
comes after a number starts with no character of a number
(`Token.not_extendedBy_of_mayFollow`).
-/

set_option autoImplicit false

namespace Calculator

namespace Token

/-- The second token may come after the first in an expression. -/
abbrev MayFollow (first second : Token) : Prop :=
  Outline.fits (awaitsAfter first) second = true

/-- The character after the token makes a longer lexeme of it, or a longer run. -/
def extendedBy (token : Token) (c : Char) : Bool :=
  match token with
  | .number _ => continuesNumber c
  | token => (ofSymbol? (token.text ++ [c])).isSome

/-- The number tokens among the tokens are literals. -/
def LiteralsFormed (tokens : List Token) : Prop :=
  ∀ digits, .number digits ∈ tokens → Number.LiteralForm digits

variable {token : Token} {c : Char}

/-- A character extends a symbol to another symbol. -/
theorem extendedBy_eq_true_iff (known : token ∈ symbols) :
    token.extendedBy c = true ↔ ∃ other ∈ symbols, other.text = token.text ++ [c] := by
  have spelled : token.extendedBy c = (ofSymbol? (token.text ++ [c])).isSome := by
    cases token with
    | number digits => simp [symbols] at known
    | _ => rfl
  simp [spelled, Option.isSome_iff_exists, ofSymbol?_eq_some_iff]

theorem text_ne_nil (form : LiteralsFormed [token]) : token.text ≠ [] := by
  rcases token.eq_number_or_mem_symbols with ⟨digits, rfl⟩ | known
  · obtain ⟨first, rest, rfl, _⟩ := (form digits (by simp)).exists_digit
    exact List.cons_ne_nil first rest
  · exact text_ne_nil_of_mem_symbols known

/-- A token is the longest lexeme where no character extends it. -/
theorem munches_of_not_extendedBy {after : List Char} (form : LiteralsFormed [token])
    (apart : ∀ c ∈ after.head?, token.extendedBy c = false) : token.Munches after := by
  rcases token.eq_number_or_mem_symbols with ⟨digits, rfl⟩ | known
  · have form := form digits (by simp)
    exact .number form ((takeWhile_literal_iff form).mpr apart)
  · refine .symbol known fun other member starts => ?_
    -- A longer symbol would consist of a symbol of one character and the character after it.
    rcases text_of_mem_symbols known with ⟨a, short⟩ | ⟨a, b, long⟩
    · rcases text_of_mem_symbols member with ⟨d, short'⟩ | ⟨d, e, long'⟩
      · simp [short, short']
      · cases after with
        | nil => simpa [short, long'] using starts.length_le
        | cons c rest =>
            simp only [short, long', List.singleton_append, List.cons_prefix_cons] at starts
            obtain ⟨rfl, rfl, _⟩ := starts
            have extends' := (extendedBy_eq_true_iff known).mpr
              ⟨other, member, by rw [short, long']; rfl⟩
            simp [apart e rfl] at extends'
    · rcases text_of_mem_symbols member with ⟨d, short'⟩ | ⟨d, e, long'⟩
      · simp [long, short']
      · simp [long, long']

/-- A separator extends no token. -/
theorem not_extendedBy_of_separator (token : Token) (separator : isSeparator c = true) :
    token.extendedBy c = false := by
  have apart : ∀ token ∈ symbols, token.extendedBy ' ' = false ∧ token.extendedBy '\t' = false ∧
      token.extendedBy '\r' = false ∧ token.extendedBy '\n' = false := by
    decide +kernel
  rcases token.eq_number_or_mem_symbols with ⟨digits, rfl⟩ | known
  · rcases isSeparator_iff.mp separator with rfl | rfl | rfl | rfl <;> rfl
  · obtain ⟨space, tab, carriageReturn, newline⟩ := apart token known
    rcases isSeparator_iff.mp separator with rfl | rfl | rfl | rfl <;> assumption

/-- **Tokens of an expression do not run together.** -/
theorem not_extendedBy_of_mayFollow {next : Token} (follows : MayFollow token next)
    (form : LiteralsFormed [next]) : ∀ c ∈ next.text.head?, token.extendedBy c = false := by
  have apart : ∀ token ∈ symbols, ∀ next ∈ symbols, MayFollow token next →
      next.text.head?.all (!token.extendedBy ·) = true := by
    decide +kernel
  intro c starts
  rcases token.eq_number_or_mem_symbols with ⟨digits, rfl⟩ | known
  · rcases next.eq_number_or_mem_symbols with ⟨digits', rfl⟩ | known'
    · cases follows
    · exact not_continuesNumber_of_mem_symbols known' c (List.mem_of_mem_head? starts)
  · rcases next.eq_number_or_mem_symbols with ⟨digits', rfl⟩ | known'
    · -- No symbol ends with a digit.
      obtain ⟨first, rest, rfl, digit⟩ := (form digits' (by simp)).exists_digit
      cases starts
      by_contra extends'
      obtain ⟨other, member, spelled⟩ := (extendedBy_eq_true_iff known).mp (by simpa using extends')
      have := not_continuesNumber_of_mem_symbols member c (by simp [spelled])
      simp [continuesNumber, digit] at this
    · simpa [Option.mem_def.mp starts] using apart token known next known' follows

end Token

/-- The text consists of the tokens in their order, with separators or nothing in front of each and
after the last. -/
inductive Spells : List Token → List Char → Prop where
  | gap {gap : List Char} (skipped : ∀ c ∈ gap, isSeparator c = true) : Spells [] gap
  | token {token : Token} {words : List Token} {gap text : List Char}
      (skipped : ∀ c ∈ gap, isSeparator c = true) (later : Spells words text) :
      Spells (token :: words) (gap ++ token.text ++ text)

/-- Tokens may be written without separators. -/
theorem spells_flatMap (words : List Token) : Spells words (words.flatMap Token.text) := by
  induction words with
  | nil => exact .gap (List.forall_mem_nil _)
  | cons word words ih => exact .token (List.forall_mem_nil _) ih

/-- A text that spells tokens starts with no character that extends the token in front of it. -/
theorem Spells.not_extendedBy {token : Token} {words : List Token} {text : List Char}
    (spells : Spells words text) (form : Token.LiteralsFormed words)
    (chain : (token :: words).IsChain Token.MayFollow) :
    ∀ c ∈ text.head?, token.extendedBy c = false := by
  intro c starts
  cases spells with
  | gap skipped =>
      exact token.not_extendedBy_of_separator (skipped c (List.mem_of_mem_head? starts))
  | @token next words gap text skipped later =>
      have formed : Token.LiteralsFormed [next] := fun digits member => form digits (by simp_all)
      cases gap with
      | cons d gap =>
          cases starts
          exact token.not_extendedBy_of_separator (skipped _ (by simp))
      | nil =>
          obtain ⟨first, rest, spelled⟩ := List.exists_cons_of_ne_nil (Token.text_ne_nil formed)
          refine Token.not_extendedBy_of_mayFollow (List.isChain_cons_cons.mp chain).1 formed c ?_
          simpa [spelled] using starts

/-- **Tokens that may follow each other are read back**, however they are separated. -/
theorem exists_lexes_of_spells {words : List Token} {text : List Char} (spells : Spells words text)
    (form : Token.LiteralsFormed words) (chain : words.IsChain Token.MayFollow) (position : Nat) :
    ∃ tokens, tokens.map Located.token = words ∧ Lexes [] position text tokens := by
  induction spells generalizing position with
  | gap skipped => exact ⟨[], rfl, .gap skipped⟩
  | @token token words gap text skipped later ih =>
      obtain ⟨tokens, same, lexes⟩ := ih (fun digits member => form digits (by simp [member]))
        chain.of_cons (position + byteLength gap + byteLength token.text)
      refine ⟨⟨token, position + byteLength gap⟩ :: tokens, by simp [same], .token skipped ?_ lexes⟩
      rw [List.append_nil]
      exact Token.munches_of_not_extendedBy (fun digits member => form digits (by simp_all))
        (later.not_extendedBy (fun digits member => form digits (by simp [member])) chain)

/-- The tokens of an outline may follow each other. -/
theorem isChain_of_run? {outline after : Outline} {tokens : List Located}
    (ran : outline.run? tokens = some after) :
    (tokens.map Located.token).IsChain Token.MayFollow := by
  induction tokens generalizing outline with
  | nil => exact .nil
  | cons next rest ih =>
      rw [Outline.run?_cons, Option.bind_eq_some_iff] at ran
      obtain ⟨middle, stepped, ran⟩ := ran
      obtain ⟨_, _, awaits⟩ := Outline.step?_eq_some_iff.mp stepped
      cases rest with
      | nil => exact .singleton _
      | cons second later =>
          have chain := ih ran
          rw [Outline.run?_cons, Option.bind_eq_some_iff] at ran
          obtain ⟨_, stepped', _⟩ := ran
          obtain ⟨fits, _⟩ := Outline.step?_eq_some_iff.mp stepped'
          rw [← awaits] at fits
          exact .cons_cons fits chain

end Calculator
