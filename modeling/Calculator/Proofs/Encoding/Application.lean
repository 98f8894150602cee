import Mathlib.Data.List.Basic
import Calculator.Encoding.Read
import Calculator.Proofs.Node
import Calculator.Proofs.Encoding.Operands

/-!
# Reading one application

An application is a symbol in front of operands that parentheses enclose and
commas separate. Reading it gives the symbol applied to the trimmed operands,
whatever the operands are as long as they are undivided and not blank
(`read_of_padded_application`). A text that is read as a node with operands is
such an application (`padded_of_read`).

A symbol and a number of operands determine a node (`apply_eq_ok_iff`): `+` and
`-` are told apart by how many operands they have.
-/

set_option autoImplicit false

namespace Calculator

namespace Encoding

/-- A symbol that no part of a text around it can be mistaken for: it has no parenthesis to open,
no blanks around it and does not start like a literal. -/
structure IsSymbol (symbol : List Char) : Prop where
  noParenthesis : '(' ∉ symbol
  trimmed : Text.trim symbol = symbol
  noLiteral : ¬ ['n', ':'] <+: symbol

/-- No character of an operator's symbol is a blank, a parenthesis, a comma or a letter. -/
theorem visible_of_symbol? {α : Type} {node : Node α} {symbol : List Char}
    (named : node.symbol? = some symbol) :
    ∀ c ∈ symbol, Text.isBlank c = false ∧ Ordinary c ∧ c ≠ 'n' := by
  -- As a statement about the characters of a list it is decided one character of the list at a
  -- time. As a statement about all characters it would be decided for each character that exists.
  refine List.forall_iff_forall_mem.mp ?_
  cases node with
  | literal digits => cases named
  | unary op operand =>
      cases named
      cases op <;> decide
  | binary op left right =>
      cases named
      cases op <;> decide
  | conditional condition whenTrue whenFalse =>
      cases named
      decide

theorem isSymbol_of_symbol? {α : Type} {node : Node α} {symbol : List Char}
    (named : node.symbol? = some symbol) : IsSymbol symbol where
  noParenthesis member := (visible_of_symbol? named _ member).2.1.1 rfl
  trimmed := Text.trim_eq_self_of_visible fun c member => (visible_of_symbol? named c member).1
  noLiteral starts := by
    obtain ⟨rest, rfl⟩ := starts
    exact (visible_of_symbol? named 'n' (by simp)).2.2 rfl

/-- **A symbol and the number of its operands determine a node.** -/
theorem apply_eq_ok_iff {symbol : List Char} {found : List (List Char)} {node : Node (List Char)} :
    apply symbol found = .ok node ↔ node.symbol? = some symbol ∧ node.operands = found := by
  constructor
  · intro applied
    refine ⟨?_, operands_of_apply applied⟩
    unfold apply at applied
    split at applied
    · split at applied
      · rename_i op known
        cases applied
        exact congrArg some (UnaryOperator.symbol_of_ofSymbol? known)
      · cases applied
    · split at applied
      · rename_i op known
        cases applied
        exact congrArg some (BinaryOperator.symbol_of_ofSymbol? known)
      · cases applied
    · split at applied
      · rename_i isConditional
        cases applied
        exact congrArg some isConditional.symm
      · cases applied
    · cases applied
  · rintro ⟨named, rfl⟩
    cases node with
    | literal digits => cases named
    | unary op operand =>
        cases named
        simp only [Node.operands, apply, UnaryOperator.ofSymbol?_symbol]
    | binary op left right =>
        cases named
        simp only [Node.operands, apply, BinaryOperator.ofSymbol?_symbol]
    | conditional condition whenTrue whenFalse =>
        cases named
        simp only [Node.operands, apply, if_true]

/-! ## Applications -/

/-- A symbol in front of operands that parentheses enclose and commas separate. -/
def application (symbol : List Char) (operands : List (List Char)) : List Char :=
  symbol ++ '(' :: ([','].intercalate operands ++ [')'])

theorem application_one (symbol body : List Char) :
    application symbol [body] = symbol ++ '(' :: (body ++ [')']) := by
  rw [application, List.intercalate_singleton]

theorem application_two (symbol first second : List Char) :
    application symbol [first, second] =
      symbol ++ '(' :: (first ++ ',' :: (second ++ [')'])) := by
  rw [application, List.intercalate_cons_cons, List.intercalate_singleton]
  simp

theorem application_three (symbol first second third : List Char) :
    application symbol [first, second, third] =
      symbol ++ '(' :: (first ++ ',' :: (second ++ ',' :: (third ++ [')']))) := by
  rw [application, List.intercalate_cons_cons, List.intercalate_cons_cons,
    List.intercalate_singleton]
  simp

/-- The encoded form of an expression with operands is an application to their encoded forms. -/
theorem encode_eq_application {expr : Expr} {symbol : List Char}
    (known : expr.node.symbol? = some symbol) :
    expr.encode = application symbol (expr.node.operands.map Expr.encode) := by
  cases expr with
  | literal digits => cases known
  | unary op operand =>
      cases known
      rw [Expr.encode_unary, Expr.node, Node.operands, List.map_singleton, application_one]
  | binary op left right =>
      cases known
      rw [Expr.encode_binary, Expr.node, Node.operands, List.map_cons, List.map_singleton,
        application_two]
  | conditional condition whenTrue whenFalse =>
      cases known
      rw [Expr.encode_conditional, Expr.node, Node.operands, List.map_cons, List.map_cons,
        List.map_singleton, application_three]

theorem undivided_application {symbol : List Char} {operands : List (List Char)}
    (ordinary : ∀ c ∈ symbol, Ordinary c) (undivided : ∀ text ∈ operands, Undivided text) :
    Undivided (application symbol operands) := by
  rw [Undivided, application, depthAfter?_append, depthAfter?_of_ordinary ordinary,
    Option.bind_some, depthAfter?_cons]
  change (depthAfter? 1 _) = _
  rw [depthAfter?_append, depthAfter?_intercalate undivided 0]
  rfl

/-- Trimming an application trims its symbol only. -/
theorem trim_application (symbol : List Char) (operands : List (List Char)) :
    Text.trim (application symbol operands) =
      application (Text.trimStart symbol) operands := by
  have closes : Text.isBlank ')' = false := by decide
  have opens : Text.isBlank '(' = false := by decide
  rw [Text.trim, application, Text.trimStart_append_cons opens, application]
  simpa only [List.append_assoc, List.cons_append] using
    Text.trimEnd_concat_of_not_blank closes
      (Text.trimStart symbol ++ '(' :: [','].intercalate operands)

theorem withoutBlanks_application (symbol : List Char) (operands : List (List Char)) :
    Text.withoutBlanks (application symbol operands) =
      application (Text.withoutBlanks symbol) (operands.map Text.withoutBlanks) := by
  have opens : Text.withoutBlanks ['('] = ['('] := by decide
  have closes : Text.withoutBlanks [')'] = [')'] := by decide
  have separates : Text.isBlank ',' = false := by decide
  rw [application, ← List.singleton_append, Text.withoutBlanks_append, Text.withoutBlanks_append,
    Text.withoutBlanks_append, Text.withoutBlanks_intercalate ',' separates, opens, closes,
    application, List.singleton_append]

/-- An application does not start like a literal. -/
theorem no_literal_prefix_of_padded {core symbol : List Char} (isSymbol : IsSymbol core)
    (padded : Text.Padded core symbol) (rest : List Char) :
    ¬ ['n', ':'] <+: Text.trimStart symbol ++ '(' :: rest := by
  obtain ⟨after, blank, trimmed⟩ := padded.exists_trimStart_eq isSymbol.trimmed
  have boundary {c : Char} {tail : List Char} (starts : c :: tail = after ++ '(' :: rest) :
      Text.isBlank c = true ∨ c = '(' := by
    cases after with
    | nil =>
        cases starts
        exact .inr rfl
    | cons first others =>
        cases starts
        exact .inl (blank c (by simp))
  rw [trimmed, List.append_assoc]
  rintro ⟨digits, starts⟩
  -- The two characters `n:` are split between the symbol and what follows it.
  match core, isSymbol with
  | [], _ => rcases boundary starts with impossible | impossible <;> revert impossible <;> decide
  | [_], _ =>
      injection starts with _ starts
      rcases boundary starts with impossible | impossible <;> revert impossible <;> decide
  | _ :: _ :: core, isSymbol =>
      injection starts with first starts
      injection starts with second starts
      subst first second
      exact isSymbol.noLiteral ⟨core, rfl⟩

theorem beforeClose?_concat (body : List Char) : beforeClose? (body ++ [')']) = some body := by
  simp [beforeClose?]

/-- A symbol in front of parentheses reads as the symbol applied to the operands between the
parentheses, if there are operands between them and none is empty. -/
theorem read_of_padded_enclosed {core symbol body text : List Char} {found : List (List Char)}
    (isSymbol : IsSymbol core) (named : Text.Padded core symbol)
    (split : operands body = .ok found) (nonempty : ∀ operand ∈ found, operand ≠ [])
    (padded : Text.Padded (application symbol [body]) text) : read text = apply core found := by
  have noOpen : ∀ c ∈ Text.trimStart symbol, decide (c ≠ '(') = true := by
    obtain ⟨after, blank, trimmed⟩ := named.exists_trimStart_eq isSymbol.trimmed
    intro c member
    rw [trimmed] at member
    rcases List.mem_append.mp member with inside | inside
    · exact decide_eq_true fun opens => isSymbol.noParenthesis (opens ▸ inside)
    · have isBlank := blank c inside
      refine decide_eq_true fun opens => ?_
      rw [opens] at isBlank
      revert isBlank
      decide
  have trimmedSymbol : Text.trim (Text.trimStart symbol) = core := by
    obtain ⟨after, blank, trimmed⟩ := named.exists_trimStart_eq isSymbol.trimmed
    rw [trimmed, Text.trim_append_of_blank blank, isSymbol.trimmed]
  have noneEmpty : found.any List.isEmpty = false := by
    rw [List.any_eq_false]
    intro operand member
    simpa using nonempty operand member
  rw [read, padded.trim_eq, trim_application, application_one]
  unfold readTrimmed
  split
  · rename_i digits whole
    exact absurd ⟨digits, whole.symm⟩ (no_literal_prefix_of_padded isSymbol named _)
  · rw [List.dropWhile_append_of_pos noOpen, List.takeWhile_append_of_pos noOpen,
      List.dropWhile_cons_of_neg (by simp), List.takeWhile_cons_of_neg (by simp)]
    simp only [beforeClose?_concat, split, List.append_nil, trimmedSymbol]
    change (if found.any List.isEmpty = true then _ else _) = _
    rw [noneEmpty, if_neg Bool.false_ne_true]

/-- **One level of a well-formed application.** The operands may be any undivided texts that are
not blank, and blanks may stand around the whole, the symbol and each operand. -/
theorem read_of_padded_application {core symbol text : List Char} {operands : List (List Char)}
    (isSymbol : IsSymbol core) (named : Text.Padded core symbol)
    (undivided : ∀ operand ∈ operands, Undivided operand)
    (visible : ∀ operand ∈ operands, Text.trim operand ≠ [])
    (padded : Text.Padded (application symbol operands) text) :
    read text = apply core (operands.map Text.trim) := by
  refine read_of_padded_enclosed isSymbol named (operands_intercalate undivided visible)
    (List.forall_mem_map.mpr visible) ?_
  rwa [application_one]

/-- Blanks around a text do not matter to reading it. -/
theorem read_trim (text : List Char) : read (Text.trim text) = read text := by
  rw [read, Text.trim_trim, ← read]

/-- Reading a literal takes its digits as they are. -/
theorem read_of_padded_literal {digits text : List Char}
    (ends : Text.trim ('n' :: ':' :: digits) = 'n' :: ':' :: digits)
    (padded : Text.Padded ('n' :: ':' :: digits) text) : read text = .ok (.literal digits) := by
  rw [read, padded.trim_eq, ends]
  rfl

theorem eq_concat_of_beforeClose? {text body : List Char}
    (found : beforeClose? text = some body) : text = body ++ [')'] := by
  unfold beforeClose? at found
  split at found
  · rename_i last
    cases found
    exact (List.dropLast_append_getLast? _ last).symm
  · cases found

/-- **What a text that can be read looks like.** It is a padded literal, or a padded application
whose trimmed operands are the node's. -/
theorem padded_of_read {text : List Char} {node : Node (List Char)} (found : read text = .ok node) :
    (∃ digits, node = .literal digits ∧ Text.Padded ('n' :: ':' :: digits) text) ∨
      ∃ core symbol operands, node.symbol? = some core ∧ Text.Padded core symbol ∧
        node.operands = operands.map Text.trim ∧
          Text.Padded (application symbol operands) text := by
  have padded := Text.padded_trim text
  unfold read readTrimmed at found
  split at found
  · rename_i digits whole
    cases found
    rw [whole] at padded
    exact .inl ⟨digits, rfl, padded⟩
  · have whole := @List.takeWhile_append_dropWhile _ (fun c => decide (c ≠ '(')) (Text.trim text)
    split at found
    · cases found
    · rename_i opening tail opened
      have opens : opening = '(' := by
        have head := List.head?_dropWhile_not (fun c => decide (c ≠ '(')) (Text.trim text)
        rw [opened] at head
        simpa using head
      split at found
      · cases found
      · rename_i body closed
        simp only [bind, Except.bind] at found
        split at found
        · cases found
        · rename_i operands split
          split at found
          · cases found
          · obtain ⟨named, rfl⟩ := apply_eq_ok_iff.mp found
            have nonempty : node.operands ≠ [] := by
              cases node <;> simp_all [Node.operands, Node.symbol?]
            obtain ⟨texts, rfl, trimmed⟩ := exists_texts_of_operands split nonempty
            refine .inr ⟨_, _, texts, named, Text.padded_trim _, trimmed.symm, ?_⟩
            rw [← whole, opened, opens, eq_concat_of_beforeClose? closed] at padded
            exact padded

end Encoding

end Calculator
