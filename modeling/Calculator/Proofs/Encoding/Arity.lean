import Calculator.Proofs.Encoding.Application

/-!
# Symbols and the number of their operands

A symbol in front of operands is read as a node if it is an operator's symbol and takes so many
operands. The symbols `+` and `-` take one operand or two, the other symbols take one number of
operands only (`Takes`).

The operands are found first, and the symbol is looked up after that. So they are the ones that
were written, whatever the symbol is and whatever they say, and reading can end in three ways
(`read_undoes_application`). It gives a node whose operands are these, trimmed. Or no operator has
the symbol. Or the operator takes another number of operands, and the failure names all that it
takes.
-/

set_option autoImplicit false

namespace Calculator

/-- Blanks around joined texts are blanks around the texts. -/
theorem Text.exists_padded_of_padded_intercalate {separator : Char} {first : List Char}
    {others : List (List Char)} {text : List Char}
    (padded : Padded ([separator].intercalate (first :: others)) text) :
    ∃ written, text = [separator].intercalate written ∧
      List.Forall₂ Padded (first :: others) written := by
  induction others generalizing first text with
  | nil =>
      rw [List.intercalate_singleton] at padded
      exact ⟨[text], (List.intercalate_singleton ..).symm, .cons padded .nil⟩
  | cons second others ih =>
      obtain ⟨before, after, rfl, blankBefore, blankAfter⟩ := padded
      have behind : Padded ([separator].intercalate (second :: others))
          ([separator].intercalate (second :: others) ++ after) :=
        ⟨[], after, rfl, by simp, blankAfter⟩
      obtain ⟨written, same, each⟩ := ih behind
      refine ⟨(before ++ first) :: written, ?_,
        .cons ⟨before, [], by simp, blankBefore, by simp⟩ each⟩
      obtain _ | ⟨_, _⟩ := each
      rw [List.intercalate_cons_cons, List.intercalate_cons_cons, ← same]
      simp only [List.append_assoc]

namespace Encoding

/-- Blanks around a list of operands are blanks around the operands. There may be blanks where the
list is empty, too. -/
theorem operands_of_padded {texts : List (List Char)} {body : List Char}
    (each : ∀ text ∈ texts, IsOperand text)
    (padded : Text.Padded ([','].intercalate texts) body) :
    operands body = .ok (texts.map Text.trim) := by
  cases texts with
  | nil =>
      have blank : body.all Text.isBlank = true := by
        rw [List.all_eq_true]
        exact Text.trim_eq_nil_iff.mp padded.trim_eq
      rw [operands, if_pos blank, List.map_nil]
  | cons first others =>
      obtain ⟨written, rfl, spaced⟩ := Text.exists_padded_of_padded_intercalate padded
      have same : (first :: others).map Text.trim = written.map Text.trim :=
        map_eq_map_of_forall₂ (spaced.imp fun _ _ padded => (Text.Padded.trim_eq padded).symm)
      have plain : ∀ text ∈ written, Undivided text ∧ Text.trim text ≠ [] := by
        refine forall_of_forall₂ spaced.flip fun text core member padded => ?_
        obtain ⟨undivided, visible⟩ := isOperand_iff.mp (each core member)
        exact ⟨undivided.of_padded padded, Text.Padded.trim_eq padded ▸ visible⟩
      rw [same]
      exact operands_intercalate (fun text member => (plain text member).1)
        fun text member => (plain text member).2

/-! ## Looking up a symbol -/

/-- The numbers of operands that a symbol takes, and how a message words them. -/
inductive Takes : List Char → List Nat → String → Prop where
  | negation : Takes ['!'] [1] "1"
  | sign {symbol : List Char} (member : symbol ∈ [['+'], ['-']]) : Takes symbol [1, 2] "1 or 2"
  | binary {op : BinaryOperator} (notPlus : op ≠ .add) (notMinus : op ≠ .subtract) :
      Takes op.symbol [2] "2"
  | conditional : Takes conditionalSymbol [3] "3"

/-- Every symbol of an operator takes some number of operands. -/
theorem exists_takes {symbol : List Char}
    (known : (∃ op, symbol = UnaryOperator.symbol op) ∨ (∃ op, symbol = BinaryOperator.symbol op) ∨
      symbol = conditionalSymbol) : ∃ counts wording, Takes symbol counts wording := by
  rcases known with ⟨op, rfl⟩ | ⟨op, rfl⟩ | rfl
  · cases op with
    | plus | minus => exact ⟨_, _, .sign (by decide)⟩
    | not => exact ⟨_, _, .negation⟩
  · by_cases plus : op = .add
    · exact ⟨_, _, .sign (by rw [plus]; decide)⟩
    · by_cases minus : op = .subtract
      · exact ⟨_, _, .sign (by rw [minus]; decide)⟩
      · exact ⟨_, _, .binary plus minus⟩
  · exact ⟨_, _, .conditional⟩

theorem acceptedCounts_of_takes {symbol : List Char} {counts : List Nat} {wording : String}
    (takes : Takes symbol counts wording) : acceptedCounts symbol = counts := by
  cases takes with
  | negation => decide
  | sign member =>
      simp only [List.mem_cons, List.not_mem_nil, or_false] at member
      rcases member with rfl | rfl <;> decide
  | @binary op notPlus notMinus => cases op <;> first | decide | contradiction
  | conditional => decide

theorem message_wrongArity_of_takes {symbol : List Char} {counts : List Nat} {wording : String}
    (takes : Takes symbol counts wording) (found : Nat) :
    (EvalError.wrongArity symbol counts found).message =
      s!"operator '{String.ofList symbol}' takes {wording} operand(s), found {found}" := by
  cases takes <;> rfl

/-- A symbol takes no number of operands if no operator has it. -/
theorem acceptedCounts_eq_nil {symbol : List Char}
    (noUnary : ∀ op, symbol ≠ UnaryOperator.symbol op)
    (noBinary : ∀ op, symbol ≠ BinaryOperator.symbol op) (noChoice : symbol ≠ conditionalSymbol) :
    acceptedCounts symbol = [] := by
  have unary : UnaryOperator.ofSymbol? symbol = none := by
    rw [Option.eq_none_iff_forall_ne_some]
    intro op known
    exact noUnary op (UnaryOperator.symbol_of_ofSymbol? known).symm
  have binary : BinaryOperator.ofSymbol? symbol = none := by
    rw [Option.eq_none_iff_forall_ne_some]
    intro op known
    exact noBinary op (BinaryOperator.symbol_of_ofSymbol? known).symm
  simp [acceptedCounts, unary, binary, noChoice]

/-- **A symbol applies to no other number of operands than it takes.** -/
theorem apply_of_not_mem_acceptedCounts {symbol : List Char} {operands : List (List Char)}
    (other : operands.length ∉ acceptedCounts symbol) :
    apply symbol operands = .error (misapplied symbol operands.length) := by
  unfold acceptedCounts at other
  unfold apply
  split
  · split
    · rename_i known
      simp [known] at other
    · rfl
  · split
    · rename_i known
      simp [known] at other
    · rfl
  · split
    · rename_i same
      simp [same] at other
    · rfl
  · rfl

/-- What a symbol does not take is the wrong number of operands. -/
theorem apply_of_takes {symbol : List Char} {counts : List Nat} {wording : String}
    {operands : List (List Char)} (takes : Takes symbol counts wording)
    (other : operands.length ∉ counts) :
    apply symbol operands = .error (.wrongArity symbol counts operands.length) := by
  have accepted := acceptedCounts_of_takes takes
  rw [apply_of_not_mem_acceptedCounts (accepted ▸ other), misapplied, accepted]
  cases takes <;> rfl

/-- **One level of decoding undoes one level of encoding.** Take a symbol that nothing around it can
be mistaken for, and texts that may stand as operands, whatever they say, with blanks around the
symbol, each operand, the list of them and the whole. The text is read as the node of the symbol
with the trimmed operands, if the symbol is that of an operator with so many operands. If it is no
operator's, the failure says so, however many operands there are. In every other case the failure
says how many operands the operator takes. -/
theorem read_undoes_application {core symbol body text : List Char} {operands : List (List Char)}
    (noParenthesis : '(' ∉ core) (trimmed : Text.trim core = core)
    (noLiteral : ¬ ['n', ':'] <+: core) (each : ∀ operand ∈ operands, IsOperand operand)
    (named : Text.Padded core symbol) (listed : Text.Padded ([','].intercalate operands) body)
    (padded : Text.Padded (symbol ++ '(' :: (body ++ [')'])) text) :
    (∀ op operand, core = UnaryOperator.symbol op → operands = [operand] →
      read text = .ok (.unary op (Text.trim operand))) ∧
    (∀ op left right, core = BinaryOperator.symbol op → operands = [left, right] →
      read text = .ok (.binary op (Text.trim left) (Text.trim right))) ∧
    (∀ condition whenTrue whenFalse, core = conditionalSymbol →
      operands = [condition, whenTrue, whenFalse] →
        read text = .ok (.conditional (Text.trim condition) (Text.trim whenTrue)
          (Text.trim whenFalse))) ∧
    ((∀ op, core ≠ UnaryOperator.symbol op) → (∀ op, core ≠ BinaryOperator.symbol op) →
      core ≠ conditionalSymbol → read text = .error (.unknownOperator core)) ∧
    ((∃ op, core = UnaryOperator.symbol op) ∨ (∃ op, core = BinaryOperator.symbol op) ∨
        core = conditionalSymbol →
      ∃ counts wording, Takes core counts wording ∧ ∀ found ∉ counts, operands.length = found →
        read text = .error (.wrongArity core counts found) ∧
          (EvalError.wrongArity core counts found).message =
            s!"operator '{String.ofList core}' takes {wording} operand(s), found {found}") := by
  have applied : read text = apply core (operands.map Text.trim) := by
    refine read_of_padded_enclosed ⟨noParenthesis, trimmed, noLiteral⟩ named
      (operands_of_padded each listed) ?_ (application_one symbol body ▸ padded)
    rw [List.forall_mem_map]
    exact fun operand member => (isOperand_iff.mp (each operand member)).2
  refine ⟨?_, ?_, ?_, ?_, ?_⟩
  · rintro op operand rfl rfl
    exact applied.trans (apply_eq_ok_iff.mpr ⟨rfl, rfl⟩)
  · rintro op left right rfl rfl
    exact applied.trans (apply_eq_ok_iff.mpr ⟨rfl, rfl⟩)
  · rintro condition whenTrue whenFalse rfl rfl
    exact applied.trans (apply_eq_ok_iff.mpr ⟨rfl, rfl⟩)
  · intro noUnary noBinary noChoice
    have none := acceptedCounts_eq_nil noUnary noBinary noChoice
    rw [applied, apply_of_not_mem_acceptedCounts (by simp [none]), misapplied, none]
  · intro known
    obtain ⟨counts, wording, takes⟩ := exists_takes known
    refine ⟨counts, wording, takes, ?_⟩
    rintro _ other rfl
    refine ⟨?_, message_wrongArity_of_takes takes _⟩
    rw [applied, apply_of_takes takes (by rwa [List.length_map]), List.length_map]

/-- Two operands that encode nothing, with blanks around them. The minus sign takes them, the
exclamation mark takes one operand only, and no operator has the third symbol. -/
theorem read_undoes_application_of_garbage :
    let first := "n:(,)\u2003".toList
    let second := " %%(((,),)x) ".toList
    let body := first ++ ',' :: (second ++ "\n".toList)
    let text := fun core : List Char => '\u3000' :: (core ++ '\t' :: '(' :: (body ++ [')']))
    (IsOperand first ∧ IsOperand second) ∧
      read (text ['-']) = .ok (.binary .subtract "n:(,)".toList "%%(((,),)x)".toList) ∧
      read (text ['!']) = .error (.wrongArity ['!'] [1] 2) ∧
      read (text ['@']) = .error (.unknownOperator ['@']) := by
  intro first second body text
  have operands : IsOperand first ∧ IsOperand second := by
    simp only [isOperand_iff, Undivided]
    decide +kernel
  have each : ∀ operand ∈ [first, second], IsOperand operand := by
    simpa using operands
  have named (core : List Char) : Text.Padded core (core ++ ['\t']) :=
    ⟨[], ['\t'], rfl, by simp, by simpa using by decide⟩
  have listed : Text.Padded ([','].intercalate [first, second]) body :=
    ⟨[], ['\n'], rfl, by simp, by simpa using by decide⟩
  have padded (core : List Char) :
      Text.Padded (core ++ ['\t'] ++ '(' :: (body ++ [')'])) (text core) :=
    ⟨['\u3000'], [], by simp [text], by simpa using by decide, by simp⟩
  have minus := read_undoes_application (by decide) (by decide) (by decide) each (named ['-'])
    listed (padded ['-'])
  have negation := read_undoes_application (by decide) (by decide) (by decide) each (named ['!'])
    listed (padded ['!'])
  have unknown := read_undoes_application (by decide) (by decide) (by decide) each (named ['@'])
    listed (padded ['@'])
  refine ⟨operands, minus.2.1 .subtract first second rfl rfl, ?_, ?_⟩
  · obtain ⟨counts, wording, takes, wrong⟩ := negation.2.2.2.2 (.inl ⟨.not, rfl⟩)
    obtain rfl : [1] = counts := acceptedCounts_of_takes takes
    exact (wrong 2 (by decide) rfl).1
  · refine unknown.2.2.2.1 (fun op => ?_) (fun op => ?_) (by decide)
    · cases op <;> decide
    · cases op <;> decide

end Encoding

end Calculator
