import Mathlib.Data.List.Basic
import Mathlib.Data.List.Induction
import Calculator.Encoding.Split
import Calculator.Proofs.Text.Padding

/-!
# Texts that splitting leaves whole

A text is undivided when its parentheses balance and every comma in it stands
inside parentheses. Splitting never cuts through an undivided text
(`pieces?_append`), so that it recovers a list of undivided texts from the text
in which commas separate them (`pieces?_intercalate`). Conversely, whatever
splitting returns are the texts between commas of what it was given
(`intercalate_of_pieces?`), and they are undivided (`undivided_of_pieces?`).

Whether a text is undivided can also be found out by counting the parentheses of
its prefixes (`undivided_iff_count`). A text may stand as an operand if it is
undivided and not blank (`IsOperand`).
-/

set_option autoImplicit false

namespace Calculator.Encoding

/-! ## Depth of parentheses -/

/-- How many parentheses are open after a character that stands inside `depth` of them. There is no
answer if the character closes a parenthesis that is not open, or is a comma outside all of them. -/
def depthPast? (depth : Nat) (c : Char) : Option Nat :=
  if c = '(' then some (depth + 1)
  else if c = ')' then if depth = 0 then none else some (depth - 1)
  else if c = ',' ∧ depth = 0 then none
  else some depth

/-- How many parentheses are open after a text that starts inside `depth` of them. -/
def depthAfter? (depth : Nat) (text : List Char) : Option Nat :=
  text.foldlM depthPast? depth

/-- The parentheses of a text balance, and each of its commas stands inside parentheses. -/
def Undivided (text : List Char) : Prop :=
  depthAfter? 0 text = some 0

theorem depthAfter?_cons (depth : Nat) (c : Char) (rest : List Char) :
    depthAfter? depth (c :: rest) = (depthPast? depth c).bind (depthAfter? · rest) :=
  List.foldlM_cons

theorem depthAfter?_append (depth : Nat) (first second : List Char) :
    depthAfter? depth (first ++ second) =
      (depthAfter? depth first).bind (depthAfter? · second) :=
  List.foldlM_append

/-- The depth scan passes parentheses, and all else but a comma outside of them. -/
theorem depthPast?_eq_some_iff {depth after : Nat} {c : Char} :
    depthPast? depth c = some after ↔
      (c = '(' ∧ after = depth + 1) ∨ (c = ')' ∧ depth = after + 1) ∨
        (c ≠ '(' ∧ c ≠ ')' ∧ ¬ (c = ',' ∧ depth = 0) ∧ after = depth) := by
  unfold depthPast?
  split
  · rename_i opens
    simp [opens, eq_comm]
  · rename_i notOpen
    split
    · rename_i closes
      simp [closes]
      omega
    · rename_i notClose
      simp [notOpen, notClose, eq_comm]

/-- The depth scan ends outside all parentheses, at a comma or where there is nothing to close. -/
theorem depthPast?_eq_none_iff {depth : Nat} {c : Char} :
    depthPast? depth c = none ↔ depth = 0 ∧ (c = ')' ∨ c = ',') := by
  unfold depthPast?
  split
  · rename_i opens
    simp [opens]
  · split
    · rename_i closes
      simp [closes]
    · rename_i notClose
      simp [notClose, and_comm]

/-- More parentheses around a character change nothing about it. -/
theorem depthPast?_add {depth after : Nat} {c : Char} (stepped : depthPast? depth c = some after)
    (more : Nat) : depthPast? (depth + more) c = some (after + more) := by
  rw [depthPast?_eq_some_iff] at stepped ⊢
  obtain ⟨opens, rfl⟩ | ⟨closes, rfl⟩ | ⟨notOpen, notClose, notOuter, rfl⟩ := stepped
  · exact .inl ⟨opens, Nat.add_right_comm ..⟩
  · exact .inr (.inl ⟨closes, Nat.add_right_comm ..⟩)
  · exact .inr (.inr ⟨notOpen, notClose, fun outer => notOuter ⟨outer.1, by omega⟩, rfl⟩)

/-- More parentheses around a text change nothing inside it. -/
theorem depthAfter?_add {depth after : Nat} {text : List Char}
    (scanned : depthAfter? depth text = some after) (more : Nat) :
    depthAfter? (depth + more) text = some (after + more) := by
  induction text generalizing depth with
  | nil =>
      cases scanned
      rfl
  | cons c rest ih =>
      rw [depthAfter?_cons] at scanned
      obtain ⟨past, stepped, later⟩ := Option.bind_eq_some_iff.mp scanned
      rw [depthAfter?_cons, depthPast?_add stepped]
      exact ih later

/-- A character that is neither a parenthesis nor a comma. -/
def Ordinary (c : Char) : Prop :=
  c ≠ '(' ∧ c ≠ ')' ∧ c ≠ ','

instance (c : Char) : Decidable (Ordinary c) :=
  inferInstanceAs (Decidable (_ ∧ _))

theorem depthPast?_of_ordinary {c : Char} (ordinary : Ordinary c) (depth : Nat) :
    depthPast? depth c = some depth := by
  obtain ⟨notOpen, notClose, notComma⟩ := ordinary
  rw [depthPast?, if_neg notOpen, if_neg notClose, if_neg fun outer => notComma outer.1]

theorem depthAfter?_of_ordinary {text : List Char} (ordinary : ∀ c ∈ text, Ordinary c)
    (depth : Nat) : depthAfter? depth text = some depth := by
  induction text with
  | nil => rfl
  | cons c rest ih =>
      rw [depthAfter?_cons, depthPast?_of_ordinary (ordinary c (by simp))]
      exact ih fun other member => ordinary other (by simp [member])

theorem undivided_of_ordinary {text : List Char} (ordinary : ∀ c ∈ text, Ordinary c) :
    Undivided text :=
  depthAfter?_of_ordinary ordinary 0

theorem ordinary_of_blank {c : Char} (blank : Text.isBlank c = true) : Ordinary c := by
  refine ⟨?_, ?_, ?_⟩
  all_goals
    rintro rfl
    revert blank
    decide

theorem Undivided.append {first second : List Char} (front : Undivided first)
    (back : Undivided second) : Undivided (first ++ second) := by
  rw [Undivided, depthAfter?_append, front]
  exact back

theorem Undivided.of_padded {core text : List Char} (undivided : Undivided core)
    (padded : Text.Padded core text) : Undivided text := by
  obtain ⟨before, after, rfl, blankBefore, blankAfter⟩ := padded
  have front := undivided_of_ordinary fun c member => ordinary_of_blank (blankBefore c member)
  have back := undivided_of_ordinary fun c member => ordinary_of_blank (blankAfter c member)
  exact (front.append undivided).append back

/-- Undivided texts may be separated by commas inside parentheses. -/
theorem depthAfter?_intercalate {texts : List (List Char)}
    (undivided : ∀ text ∈ texts, Undivided text) (depth : Nat) :
    depthAfter? (depth + 1) ([','].intercalate texts) = some (depth + 1) := by
  have whole (text : List Char) (member : text ∈ texts) :
      depthAfter? (depth + 1) text = some (depth + 1) := by
    simpa using depthAfter?_add (undivided text member) (depth + 1)
  induction texts with
  | nil => rfl
  | cons first others ih =>
      cases others with
      | nil =>
          rw [List.intercalate_singleton]
          exact whole first (by simp)
      | cons second others =>
          rw [List.intercalate_cons_cons, List.append_assoc, depthAfter?_append,
            whole first (by simp)]
          exact ih (fun text member => undivided text (by simp [member]))
            (fun text member => whole text (by simp [member]))

/-! ## Counting parentheses -/

/-- The depth after a text tells how many more parentheses it opens than it closes. -/
theorem depthAfter?_count {depth after : Nat} {text : List Char}
    (scanned : depthAfter? depth text = some after) :
    depth + text.count '(' = after + text.count ')' := by
  induction text generalizing depth with
  | nil =>
      cases scanned
      rfl
  | cons c rest ih =>
      rw [depthAfter?_cons] at scanned
      obtain ⟨past, stepped, later⟩ := Option.bind_eq_some_iff.mp scanned
      have counted := ih later
      obtain ⟨rfl, rfl⟩ | ⟨rfl, rfl⟩ | ⟨notOpen, notClose, _, rfl⟩ :=
        depthPast?_eq_some_iff.mp stepped
      · simp only [List.count_cons_self, List.count_cons_of_ne (by decide : '(' ≠ ')')]
        omega
      · simp only [List.count_cons_self, List.count_cons_of_ne (by decide : ')' ≠ '(')]
        omega
      · rw [List.count_cons_of_ne notOpen, List.count_cons_of_ne notClose]
        exact counted

theorem Undivided.balances {text : List Char} (undivided : Undivided text) :
    text.count '(' = text.count ')' := by
  simpa using depthAfter?_count undivided

/-- The depth scan passes every text that a text starts with if it passes the text. -/
theorem exists_depthAfter?_of_prefix {before text : List Char} {after : Nat}
    (scanned : depthAfter? 0 text = some after) (start : before <+: text) :
    ∃ depth, depthAfter? 0 before = some depth := by
  obtain ⟨rest, rfl⟩ := start
  rw [depthAfter?_append] at scanned
  obtain ⟨depth, scanned, _⟩ := Option.bind_eq_some_iff.mp scanned
  exact ⟨depth, scanned⟩

/-- The depth scan passes one more character if the parentheses allow it. -/
theorem exists_depthPast?_of_count {depth : Nat} {front : List Char} {last : Char}
    (scanned : depthAfter? 0 front = some depth)
    (neverBelow : (front ++ [last]).count ')' ≤ (front ++ [last]).count '(')
    (inside : last = ',' → front.count ')' < front.count '(') :
    ∃ after, depthPast? depth last = some after := by
  have counted := depthAfter?_count scanned
  cases stepped : depthPast? depth last with
  | some after => exact ⟨after, rfl⟩
  | none =>
      obtain ⟨rfl, rfl | rfl⟩ := depthPast?_eq_none_iff.mp stepped
      · rw [List.count_append, List.count_append, List.count_singleton_self,
          List.count_singleton, if_neg (by decide)] at neverBelow
        omega
      · have := inside rfl
        omega

theorem exists_depthAfter?_of_count {text : List Char}
    (neverBelow : ∀ before, before <+: text → before.count ')' ≤ before.count '(')
    (commasInside : ∀ before, before ++ [','] <+: text → before.count ')' < before.count '(') :
    ∃ after, depthAfter? 0 text = some after := by
  induction text using List.reverseRecOn with
  | nil => exact ⟨0, rfl⟩
  | append_singleton front last ih =>
      have shorter := List.prefix_append front [last]
      obtain ⟨depth, scanned⟩ := ih (fun before start => neverBelow before (start.trans shorter))
        fun before start => commasInside before (start.trans shorter)
      obtain ⟨after, stepped⟩ := exists_depthPast?_of_count scanned
        (neverBelow _ (List.prefix_refl _)) fun comma =>
          commasInside front (comma ▸ List.prefix_refl _)
      refine ⟨after, ?_⟩
      rw [depthAfter?_append, scanned, Option.bind_some, depthAfter?_cons, stepped]
      rfl

/-- **Whether a text is undivided can be found out by counting parentheses.** -/
theorem undivided_iff_count {text : List Char} :
    Undivided text ↔
      (∀ before, before <+: text → before.count ')' ≤ before.count '(') ∧
        text.count '(' = text.count ')' ∧
          ∀ before, before ++ [','] <+: text → before.count ')' < before.count '(' := by
  constructor
  · intro undivided
    refine ⟨fun before start => ?_, ?_, fun before start => ?_⟩
    · obtain ⟨depth, scanned⟩ := exists_depthAfter?_of_prefix undivided start
      have := depthAfter?_count scanned
      omega
    · have := depthAfter?_count undivided
      omega
    · obtain ⟨after, scanned⟩ := exists_depthAfter?_of_prefix undivided start
      rw [depthAfter?_append] at scanned
      obtain ⟨depth, scanned, comma⟩ := Option.bind_eq_some_iff.mp scanned
      have := depthAfter?_count scanned
      have : depth ≠ 0 := by
        rintro rfl
        cases comma
      omega
  · rintro ⟨neverBelow, balances, commasInside⟩
    obtain ⟨after, scanned⟩ := exists_depthAfter?_of_count neverBelow commasInside
    have := depthAfter?_count scanned
    obtain rfl : after = 0 := by omega
    exact scanned

/-- A text that may stand as an operand, whatever it says: no part of it from the start closes more
parentheses than it opens, in the end all are closed, every comma stands inside parentheses, and
the text is not blank. -/
structure IsOperand (text : List Char) : Prop where
  neverBelow : ∀ before, before <+: text → before.count ')' ≤ before.count '('
  balances : text.count '(' = text.count ')'
  commasInside : ∀ before, before ++ [','] <+: text → before.count ')' < before.count '('
  visible : ∃ c ∈ text, Text.isBlank c = false

theorem isOperand_iff {text : List Char} :
    IsOperand text ↔ Undivided text ∧ Text.trim text ≠ [] := by
  have visible : (∃ c ∈ text, Text.isBlank c = false) ↔ Text.trim text ≠ [] := by
    simp [Text.trim_eq_nil_iff]
  rw [undivided_iff_count, ← visible]
  constructor
  · rintro ⟨neverBelow, balances, commasInside, visible⟩
    exact ⟨⟨neverBelow, balances, commasInside⟩, visible⟩
  · rintro ⟨⟨neverBelow, balances, commasInside⟩, visible⟩
    exact ⟨neverBelow, balances, commasInside, visible⟩

/-! ## Splitting -/

/-- A text in front of the first of several pieces. -/
def prependText (text : List Char) (pieces : List Char × List (List Char)) :
    List Char × List (List Char) :=
  (text ++ pieces.1, pieces.2)

/-- A character that the depth scan passes stays in the first piece. -/
theorem pieces?_cons {depth after : Nat} {c : Char} (stepped : depthPast? depth c = some after)
    (rest : List Char) : pieces? depth (c :: rest) = (pieces? after rest).map (prepend c) := by
  obtain ⟨rfl, rfl⟩ | ⟨rfl, rfl⟩ | ⟨notOpen, notClose, notOuter, rfl⟩ :=
    depthPast?_eq_some_iff.mp stepped
  · rfl
  · rfl
  · conv_lhs => unfold pieces?
    rw [if_neg notOpen, if_neg notClose, if_neg notOuter]

/-- Nothing is split where there is no parenthesis to close. -/
theorem pieces?_close (rest : List Char) : pieces? 0 (')' :: rest) = none :=
  rfl

/-- A comma outside all parentheses ends a piece. -/
theorem pieces?_comma (rest : List Char) :
    pieces? 0 (',' :: rest) = (pieces? 0 rest).map fun pieces => ([], pieces.1 :: pieces.2) :=
  rfl

/-- **Splitting does not cut inside a text that the depth scan passes.** -/
theorem pieces?_append {depth after : Nat} {text : List Char}
    (scanned : depthAfter? depth text = some after) (rest : List Char) :
    pieces? depth (text ++ rest) = (pieces? after rest).map (prependText text) := by
  induction text generalizing depth with
  | nil =>
      cases scanned
      rw [List.nil_append]
      cases pieces? after rest <;> rfl
  | cons c front ih =>
      rw [depthAfter?_cons] at scanned
      obtain ⟨past, stepped, later⟩ := Option.bind_eq_some_iff.mp scanned
      rw [List.cons_append, pieces?_cons stepped, ih later, Option.map_map]
      rfl

/-- An undivided text is a single piece. -/
theorem pieces?_of_undivided {text : List Char} (undivided : Undivided text) :
    pieces? 0 text = some (text, []) := by
  have split := pieces?_append undivided []
  rw [List.append_nil] at split
  simp [split, pieces?, prependText]

/-- **Splitting undoes separation by commas.** -/
theorem pieces?_intercalate {first : List Char} {others : List (List Char)}
    (undivided : ∀ text ∈ first :: others, Undivided text) :
    pieces? 0 ([','].intercalate (first :: others)) = some (first, others) := by
  induction others generalizing first with
  | nil =>
      rw [List.intercalate_singleton]
      exact pieces?_of_undivided (undivided first (by simp))
  | cons second others ih =>
      have later := ih fun text member => undivided text (List.mem_cons_of_mem _ member)
      rw [List.intercalate_cons_cons, List.append_assoc,
        pieces?_append (undivided first (by simp)), List.singleton_append, pieces?,
        if_neg (by decide), if_neg (by decide), if_pos ⟨rfl, rfl⟩, later]
      simp [prependText]

/-- The pieces of a text are what stands between some of its commas. -/
theorem intercalate_of_pieces? {depth : Nat} {text : List Char}
    {pieces : List Char × List (List Char)} (found : pieces? depth text = some pieces) :
    [','].intercalate (pieces.1 :: pieces.2) = text := by
  have prepended (c : Char) (later : List Char × List (List Char)) :
      [','].intercalate ((prepend c later).1 :: (prepend c later).2) =
        c :: [','].intercalate (later.1 :: later.2) := by
    obtain ⟨first, others⟩ := later
    cases others <;> simp [prepend, List.intercalate_cons_cons]
  induction text generalizing depth pieces with
  | nil =>
      simp only [pieces?] at found
      split at found <;> cases found
      rfl
  | cons c rest ih =>
      cases stepped : depthPast? depth c with
      | some after =>
          rw [pieces?_cons stepped] at found
          obtain ⟨later, split, rfl⟩ := Option.map_eq_some_iff.mp found
          rw [prepended, ih split]
      | none =>
          obtain ⟨rfl, rfl | rfl⟩ := depthPast?_eq_none_iff.mp stepped
          · cases found
          · rw [pieces?_comma] at found
            obtain ⟨later, split, rfl⟩ := Option.map_eq_some_iff.mp found
            rw [List.intercalate_cons_cons, ih split]
            rfl

/-- The first piece closes the parentheses that the text stands in, and the others are undivided. -/
theorem undivided_of_pieces? {depth : Nat} {text : List Char}
    {pieces : List Char × List (List Char)} (found : pieces? depth text = some pieces) :
    depthAfter? depth pieces.1 = some 0 ∧ ∀ piece ∈ pieces.2, Undivided piece := by
  induction text generalizing depth pieces with
  | nil =>
      rw [pieces?] at found
      split at found
      · rename_i outside
        cases found
        exact ⟨congrArg some outside, by simp⟩
      · cases found
  | cons c rest ih =>
      cases stepped : depthPast? depth c with
      | some after =>
          rw [pieces?_cons stepped] at found
          obtain ⟨later, split, rfl⟩ := Option.map_eq_some_iff.mp found
          obtain ⟨first, others⟩ := ih split
          refine ⟨?_, others⟩
          rw [prepend, depthAfter?_cons, stepped]
          exact first
      | none =>
          obtain ⟨rfl, rfl | rfl⟩ := depthPast?_eq_none_iff.mp stepped
          · cases found
          · rw [pieces?_comma] at found
            obtain ⟨later, split, rfl⟩ := Option.map_eq_some_iff.mp found
            obtain ⟨first, others⟩ := ih split
            exact ⟨rfl, List.forall_mem_cons.mpr ⟨first, others⟩⟩

/-! ## Operands -/

/-- **The operands of undivided texts that commas separate are these texts, trimmed.** -/
theorem operands_intercalate {texts : List (List Char)}
    (undivided : ∀ text ∈ texts, Undivided text) (visible : ∀ text ∈ texts, Text.trim text ≠ []) :
    operands ([','].intercalate texts) = .ok (texts.map Text.trim) := by
  cases texts with
  | nil => rfl
  | cons first others =>
      have notBlank : ¬ ([','].intercalate (first :: others)).all Text.isBlank = true := by
        rw [List.all_eq_true]
        intro blank
        refine visible first (by simp) (Text.trim_eq_nil_iff.mpr fun c member => blank c ?_)
        cases others with
        | nil => simpa using member
        | cons second others =>
            rw [List.intercalate_cons_cons]
            simp [member]
      rw [operands, if_neg notBlank, pieces?_intercalate undivided]

/-- Operands that are found are the trimmed texts between commas. -/
theorem exists_texts_of_operands {body : List Char} {found : List (List Char)}
    (split : operands body = .ok found) (nonempty : found ≠ []) :
    ∃ texts, [','].intercalate texts = body ∧ texts.map Text.trim = found := by
  unfold operands at split
  split at split
  · cases split
    exact absurd rfl nonempty
  · split at split
    · rename_i first others pieces
      cases split
      exact ⟨first :: others, intercalate_of_pieces? pieces, rfl⟩
    · cases split

end Calculator.Encoding
