import Calculator.Encoding.Decode
import Calculator.Encoding.Grammar
import Calculator.Proofs.Encoding.Application
import Calculator.Proofs.Outcome

/-!
# Decoding accepts the grammar of encoded expressions

A text decodes to a tree exactly when the grammar derives it as that tree and the
tree is not too deep (`decode_accepts_grammar`). The decoder's side is an induction
on the tree that it returns, the grammar's side an induction on the derivation.
They meet in the two facts about one level of a text: what it reads as
(`read_of_padded_application`) and what it looks like if it can be read
(`padded_of_read`).
-/

set_option autoImplicit false

namespace Calculator

open Encoding (Undivided Ordinary application)

/-! ## Characters of literals and symbols -/

/-- A digit is neither a blank nor a mark of the encoding. -/
theorem visible_of_isDigit {c : Char} (digit : c.isDigit = true) :
    Text.isBlank c = false ∧ Ordinary c := by
  simp only [Char.isDigit, Bool.and_eq_true, decide_eq_true_eq, ge_iff_le,
    UInt32.le_iff_toNat_le] at digit
  change 48 ≤ c.toNat ∧ c.toNat ≤ 57 at digit
  refine ⟨?_, ?_, ?_, ?_⟩
  · rw [Bool.eq_false_iff]
    intro blank
    obtain ⟨range, member, low, high⟩ := (Text.inRanges_iff _ _).mp blank
    simp only [Text.blankRanges, List.mem_cons, List.not_mem_nil, or_false] at member
    rcases member with rfl | rfl | rfl | rfl | rfl | rfl | rfl | rfl | rfl | rfl <;>
      simp only at low high <;> omega
  all_goals
    rintro rfl
    revert digit
    decide

/-- No character of an encoded literal is a blank or a mark of the encoding. -/
theorem visible_of_literalForm {digits : List Char} (form : Number.LiteralForm digits) :
    ∀ c ∈ 'n' :: ':' :: digits, Text.isBlank c = false ∧ Ordinary c := by
  refine List.forall_mem_cons.mpr ⟨by decide,
    List.forall_mem_cons.mpr ⟨by decide, fun c member => ?_⟩⟩
  rcases form.isDigit_or_point c member with digit | rfl
  · exact visible_of_isDigit digit
  · decide

/-- No character of a padded symbol is a mark of the encoding. -/
theorem ordinary_of_padded_symbol {α : Type} {node : Node α} {core symbol : List Char}
    (known : node.symbol? = some core) (named : Text.Padded core symbol) :
    ∀ c ∈ symbol, Ordinary c := by
  obtain ⟨before, after, rfl, blankBefore, blankAfter⟩ := named
  intro c member
  rcases List.mem_append.mp member with member | member
  · rcases List.mem_append.mp member with member | member
    · exact Encoding.ordinary_of_blank (blankBefore c member)
    · exact (Encoding.visible_of_symbol? known c member).2.1
  · exact Encoding.ordinary_of_blank (blankAfter c member)

/-! ## Derivations -/

namespace Encodes

/-- More padding changes nothing. -/
theorem of_padded {core text : List Char} {expr : Expr} (encodes : Encodes core expr)
    (padded : Text.Padded core text) : Encodes text expr := by
  cases encodes with
  | literal form inner => exact .literal form (inner.trans padded)
  | unary named operand inner => exact .unary named operand (inner.trans padded)
  | binary named left right inner => exact .binary named left right (inner.trans padded)
  | conditional named condition whenTrue whenFalse inner =>
      exact .conditional named condition whenTrue whenFalse (inner.trans padded)

/-- **A derivation, one level at a time.** A text encodes an expression with operands exactly when
it is a padded application of the symbol to texts that encode the operands. -/
theorem iff_application {core text : List Char} {expr : Expr}
    (known : expr.node.symbol? = some core) :
    Encodes text expr ↔ ∃ symbol operands, Text.Padded core symbol ∧
      List.Forall₂ Encodes operands expr.node.operands ∧
        Text.Padded (application symbol operands) text := by
  constructor
  · intro encodes
    cases encodes with
    | literal form padded => cases known
    | @unary op symbol body text operand named encodesOperand padded =>
        cases known
        rw [← Encoding.application_one] at padded
        exact ⟨_, _, named, .cons encodesOperand .nil, padded⟩
    | binary named left right padded =>
        cases known
        rw [← Encoding.application_two] at padded
        exact ⟨_, _, named, .cons left (.cons right .nil), padded⟩
    | conditional named condition whenTrue whenFalse padded =>
        cases known
        rw [← Encoding.application_three] at padded
        exact ⟨_, _, named, .cons condition (.cons whenTrue (.cons whenFalse .nil)), padded⟩
  · rintro ⟨symbol, operands, named, encodes, padded⟩
    cases expr with
    | literal digits => cases known
    | unary op operand =>
        cases known
        obtain _ | ⟨first, _ | _⟩ := encodes
        rw [Encoding.application_one] at padded
        exact .unary named first padded
    | binary op left right =>
        cases known
        obtain _ | ⟨first, _ | ⟨second, _ | _⟩⟩ := encodes
        rw [Encoding.application_two] at padded
        exact .binary named first second padded
    | conditional condition whenTrue whenFalse =>
        cases known
        obtain _ | ⟨first, _ | ⟨second, _ | ⟨third, _ | _⟩⟩⟩ := encodes
        rw [Encoding.application_three] at padded
        exact .conditional named first second third padded

theorem iff_literal {digits text : List Char} :
    Encodes text (.literal digits) ↔
      Number.LiteralForm digits ∧ Text.Padded ('n' :: ':' :: digits) text := by
  constructor
  · rintro ⟨form, padded⟩
    exact ⟨form, padded⟩
  · rintro ⟨form, padded⟩
    exact .literal form padded

/-- The literals of an expression that a text encodes are well-formed. -/
theorem literalForm {text : List Char} {expr : Expr} (encodes : Encodes text expr) :
    ∀ digits ∈ expr.literals, Number.LiteralForm digits := by
  induction encodes with
  | literal form padded => simpa [Expr.literals] using form
  | unary named operand padded ih => exact ih
  | binary named left right padded ihLeft ihRight =>
      exact List.forall_mem_append.mpr ⟨ihLeft, ihRight⟩
  | conditional named condition whenTrue whenFalse padded ihCondition ihTrue ihFalse =>
      exact List.forall_mem_append.mpr
        ⟨List.forall_mem_append.mpr ⟨ihCondition, ihTrue⟩, ihFalse⟩

/-- A text that encodes an expression is undivided and not blank. -/
theorem undivided_and_visible {text : List Char} {expr : Expr} (encodes : Encodes text expr) :
    Undivided text ∧ Text.trim text ≠ [] := by
  induction expr using Expr.induct_operands generalizing text with
  | step expr ih =>
      rcases expr.eq_literal_or_symbol? with ⟨digits, rfl⟩ | ⟨core, known⟩
      · obtain ⟨form, padded⟩ := iff_literal.mp encodes
        have visible := visible_of_literalForm form
        refine ⟨(Encoding.undivided_of_ordinary fun c member => (visible c member).2).of_padded
          padded, ?_⟩
        rw [padded.trim_eq, Text.trim_eq_self_of_visible fun c member => (visible c member).1]
        exact List.cons_ne_nil _ _
      · obtain ⟨symbol, operands, named, each, padded⟩ := (iff_application known).mp encodes
        have undivided := forall_of_forall₂ each fun _ operand member encodes =>
          (ih operand member encodes).1
        refine ⟨(Encoding.undivided_application (ordinary_of_padded_symbol known named)
          undivided).of_padded padded, ?_⟩
        rw [padded.trim_eq, Encoding.trim_application]
        simp [application]

/-- **Without its blanks, a text that encodes an expression is the encoded form.** -/
theorem encode_eq_withoutBlanks {text : List Char} {expr : Expr} (encodes : Encodes text expr) :
    expr.encode = Text.withoutBlanks text := by
  induction expr using Expr.induct_operands generalizing text with
  | step expr ih =>
      rcases expr.eq_literal_or_symbol? with ⟨digits, rfl⟩ | ⟨core, known⟩
      · obtain ⟨form, padded⟩ := iff_literal.mp encodes
        have visible := visible_of_literalForm form
        rw [padded.withoutBlanks_eq,
          Text.withoutBlanks_eq_self fun c member => (visible c member).1, Expr.encode_literal]
      · obtain ⟨symbol, operands, named, each, padded⟩ := (iff_application known).mp encodes
        have visible := Encoding.visible_of_symbol? known
        have same := map_eq_map_of_forall₂ (forall₂_imp_of_mem each fun text _ operand member
          encodes => (ih operand member encodes).symm)
        rw [padded.withoutBlanks_eq, Encoding.withoutBlanks_application, named.withoutBlanks_eq,
          Text.withoutBlanks_eq_self fun c member => (visible c member).1, same,
          Encoding.encode_eq_application known]

end Encodes

/-- The encoded form of an expression with well-formed literals encodes it. -/
theorem encodes_encode {expr : Expr} (form : ∀ digits ∈ expr.literals, Number.LiteralForm digits) :
    Encodes expr.encode expr := by
  induction expr using Expr.induct_operands with
  | step expr ih =>
      rcases expr.eq_literal_or_symbol? with ⟨digits, rfl⟩ | ⟨core, known⟩
      · rw [Expr.encode_literal]
        exact .literal (form digits (by simp [Expr.literals])) (.refl _)
      · refine (Encodes.iff_application known).mpr
          ⟨core, expr.node.operands.map Expr.encode, .refl _, ?_, ?_⟩
        · rw [List.forall₂_map_left_iff, List.forall₂_same]
          intro operand member
          exact ih operand member fun digits inside =>
            form digits (Expr.mem_literals_of_mem_operands member inside)
        · rw [Encoding.encode_eq_application known]
          exact .refl _

/-! ## Decoding -/

namespace Encoding

/-- The tree of a node, given how its operands are decoded. -/
def decodeNode (next : List Char → Except EvalError Expr) :
    Node (List Char) → Except EvalError Expr
  | .literal digits => do
      let _ ← Value.ofLiteral digits
      return .literal digits
  | .unary op operand => do
      let operand ← next operand
      return .unary op operand
  | .binary op left right => do
      let left ← next left
      let right ← next right
      return .binary op left right
  | .conditional condition whenTrue whenFalse => do
      let condition ← next condition
      let whenTrue ← next whenTrue
      let whenFalse ← next whenFalse
      return .conditional condition whenTrue whenFalse

/-- Decoding checks the depth, reads one level and decodes its operands one level deeper. -/
theorem decodeAt_eq (limits : Limits) (depth : Nat) (text : List Char) :
    decodeAt limits depth text =
      if limits.maxDepth < depth then .error (.tooDeep limits.maxDepth)
      else read text >>= decodeNode (decodeAt limits (depth + 1)) := by
  rw [decodeAt, decodeTraced]
  split
  · rfl
  · -- The record of the node has no part in the outcome.
    rw [Traced.outcome_bind_of_eq_ok (Traced.outcome_log _)]
    split
    · rename_i error found
      rw [found]
      rfl
    all_goals
      rename_i found
      rw [found]
      simp only [Traced.outcome_bind]
      rfl

theorem ofLiteral_eq_ok_iff {digits : List Char} :
    (∃ value, Value.ofLiteral digits = .ok value) ↔ Number.LiteralForm digits := by
  rw [← Number.isLiteral_iff, Value.ofLiteral]
  split <;> simp_all

/-- A node is decoded when its operands are, and its digits form a literal if it is one. -/
theorem decodeNode_eq_ok_iff {next : List Char → Except EvalError Expr} {node : Node (List Char)}
    {expr : Expr} :
    decodeNode next node = .ok expr ↔
      node.Related (fun text operand => next text = .ok operand) expr.node ∧
        ∀ digits, expr = .literal digits → Number.LiteralForm digits := by
  constructor
  · intro decoded
    cases node with
    | literal digits =>
        obtain ⟨value, valid, same⟩ := bind_eq_ok_iff.mp decoded
        cases same
        refine ⟨.literal digits, ?_⟩
        rintro _ ⟨⟩
        exact ofLiteral_eq_ok_iff.mp ⟨value, valid⟩
    | unary op operand =>
        obtain ⟨operand, found, same⟩ := bind_eq_ok_iff.mp decoded
        cases same
        exact ⟨.unary op found, by simp⟩
    | binary op left right =>
        obtain ⟨left, foundLeft, decoded⟩ := bind_eq_ok_iff.mp decoded
        obtain ⟨right, foundRight, same⟩ := bind_eq_ok_iff.mp decoded
        cases same
        exact ⟨.binary op foundLeft foundRight, by simp⟩
    | conditional condition whenTrue whenFalse =>
        obtain ⟨condition, foundCondition, decoded⟩ := bind_eq_ok_iff.mp decoded
        obtain ⟨whenTrue, foundTrue, decoded⟩ := bind_eq_ok_iff.mp decoded
        obtain ⟨whenFalse, foundFalse, same⟩ := bind_eq_ok_iff.mp decoded
        cases same
        exact ⟨.conditional foundCondition foundTrue foundFalse, by simp⟩
  · rintro ⟨same, form⟩
    cases expr with
    | literal digits =>
        cases same
        obtain ⟨value, valid⟩ := ofLiteral_eq_ok_iff.mpr (form digits rfl)
        exact bind_eq_ok_iff.mpr ⟨value, valid, rfl⟩
    | unary op operand =>
        cases same with
        | unary op found => exact bind_eq_ok_iff.mpr ⟨_, found, rfl⟩
    | binary op left right =>
        cases same with
        | binary op foundLeft foundRight =>
            exact bind_eq_ok_iff.mpr ⟨_, foundLeft, bind_eq_ok_iff.mpr ⟨_, foundRight, rfl⟩⟩
    | conditional condition whenTrue whenFalse =>
        cases same with
        | conditional foundCondition foundTrue foundFalse =>
            exact bind_eq_ok_iff.mpr ⟨_, foundCondition, bind_eq_ok_iff.mpr
              ⟨_, foundTrue, bind_eq_ok_iff.mpr ⟨_, foundFalse, rfl⟩⟩⟩

/-- Decoding at an allowed depth succeeds when one level is read and its operands decode. -/
theorem decodeAt_eq_ok_iff {limits : Limits} {depth : Nat} {text : List Char} {expr : Expr} :
    decodeAt limits depth text = .ok expr ↔
      depth ≤ limits.maxDepth ∧
        (∃ node, read text = .ok node ∧ node.Related (fun text operand =>
          decodeAt limits (depth + 1) text = .ok operand) expr.node) ∧
        ∀ digits, expr = .literal digits → Number.LiteralForm digits := by
  rw [decodeAt_eq]
  by_cases tooDeep : limits.maxDepth < depth
  · rw [if_pos tooDeep]
    constructor
    · intro impossible
      cases impossible
    · rintro ⟨allowed, _⟩
      omega
  · rw [if_neg tooDeep, bind_eq_ok_iff]
    constructor
    · rintro ⟨node, found, decoded⟩
      obtain ⟨same, form⟩ := decodeNode_eq_ok_iff.mp decoded
      exact ⟨by omega, ⟨node, found, same⟩, form⟩
    · rintro ⟨_, ⟨node, found, same⟩, form⟩
      exact ⟨node, found, decodeNode_eq_ok_iff.mpr ⟨same, form⟩⟩

/-- Blanks around a text do not matter to decoding. -/
theorem decodeAt_trim (limits : Limits) (depth : Nat) (text : List Char) :
    decodeAt limits depth (Text.trim text) = decodeAt limits depth text := by
  rw [decodeAt_eq, decodeAt_eq, read_trim]

/-- **What decodes is derived**, and is no deeper than the limit leaves room for. -/
theorem encodes_of_decodeAt {limits : Limits} {depth : Nat} {text : List Char} {expr : Expr}
    (decoded : decodeAt limits depth text = .ok expr) :
    Encodes text expr ∧ depth + expr.depth ≤ limits.maxDepth + 1 := by
  induction expr using Expr.induct_operands generalizing depth text with
  | step expr ih =>
      obtain ⟨allowed, ⟨node, found, same⟩, form⟩ := decodeAt_eq_ok_iff.mp decoded
      rcases expr.eq_literal_or_symbol? with ⟨digits, rfl⟩ | ⟨core, known⟩
      · cases same
        rcases padded_of_read found with ⟨_, ⟨⟩, padded⟩ | ⟨_, _, _, impossible, _⟩
        · exact ⟨.literal (form digits rfl) padded, by simpa [Expr.depth] using allowed⟩
        · cases impossible
      · have known' := same.symbol?.trans known
        rcases padded_of_read found with
          ⟨_, rfl, _⟩ | ⟨core', symbol, texts, given, named, cut, padded⟩
        · cases known'
        cases Option.some.inj (known'.symm.trans given)
        have each := same.operands
        rw [cut, List.forall₂_map_left_iff] at each
        have derived := forall₂_imp_of_mem each fun text _ operand member decodes =>
          ih operand member decodes
        refine ⟨(Encodes.iff_application known).mpr
          ⟨symbol, texts, named, derived.imp fun _ _ both =>
            both.1.of_padded (Text.padded_trim _), padded⟩, ?_⟩
        have shallow : ∀ operand ∈ expr.node.operands, operand.depth ≤ limits.maxDepth - depth :=
          forall_of_forall₂ derived.flip fun operand _ _ both => by
            have := both.2
            omega
        have := (Expr.depth_le_succ_iff known _).mpr shallow
        omega

/-- **What is derived decodes**, if the limit leaves room for it. -/
theorem decodeAt_of_encodes {limits : Limits} {depth : Nat} {text : List Char} {expr : Expr}
    (encodes : Encodes text expr) (room : depth + expr.depth ≤ limits.maxDepth + 1) :
    decodeAt limits depth text = .ok expr := by
  induction expr using Expr.induct_operands generalizing depth text with
  | step expr ih =>
      have nonempty := expr.depth_pos
      refine decodeAt_eq_ok_iff.mpr ⟨by omega, ?_, ?_⟩
      · rcases expr.eq_literal_or_symbol? with ⟨digits, rfl⟩ | ⟨core, known⟩
        · obtain ⟨form, padded⟩ := Encodes.iff_literal.mp encodes
          have visible := visible_of_literalForm form
          have ends := Text.trim_eq_self_of_visible fun c member => (visible c member).1
          exact ⟨_, read_of_padded_literal ends padded, .literal digits⟩
        · obtain ⟨symbol, texts, named, each, padded⟩ := (Encodes.iff_application known).mp encodes
          have plain := forall_of_forall₂ each fun _ _ _ encodes => encodes.undivided_and_visible
          have shallow := (Expr.depth_le_succ_iff known (limits.maxDepth - depth)).mp (by omega)
          have decodes : List.Forall₂ (fun text operand =>
              decodeAt limits (depth + 1) text = .ok operand)
              (texts.map Text.trim) expr.node.operands := by
            rw [List.forall₂_map_left_iff]
            refine forall₂_imp_of_mem each fun text _ operand member encodes => ?_
            have := shallow operand member
            rw [decodeAt_trim]
            exact ih operand member encodes (by omega)
          obtain ⟨node, made, cut, same⟩ := Node.exists_related known decodes
          refine ⟨node, ?_, same⟩
          rw [read_of_padded_application (isSymbol_of_symbol? known) named
            (fun text member => (plain text member).1) (fun text member => (plain text member).2)
            padded]
          exact apply_eq_ok_iff.mpr ⟨made, cut⟩
      · rintro digits rfl
        exact (Encodes.iff_literal.mp encodes).1

end Encoding

/-- **Decoding accepts exactly the grammar.** A text decodes to an expression if and only if the
grammar derives it as that expression and the limit allows its depth. So the encoded form of an
expression with well-formed literals decodes to it, and the encoded form of what a text decodes to
is the text without its blanks. -/
theorem decode_accepts_grammar (limits : Limits) (text : List Char) (expr : Expr) :
    (Encoding.decode limits text = .ok expr ↔
      Encodes text expr ∧ expr.depth ≤ limits.maxDepth) ∧
    ((∀ digits ∈ expr.literals, Number.isLiteral digits = true) →
      expr.depth ≤ limits.maxDepth → Encoding.decode limits expr.encode = .ok expr) ∧
    (Encoding.decode limits text = .ok expr → expr.encode = Text.withoutBlanks text) := by
  have accepts (text : List Char) : Encoding.decode limits text = .ok expr ↔
      Encodes text expr ∧ expr.depth ≤ limits.maxDepth := by
    constructor
    · intro decoded
      obtain ⟨encodes, room⟩ := Encoding.encodes_of_decodeAt decoded
      exact ⟨encodes, by omega⟩
    · rintro ⟨encodes, room⟩
      exact Encoding.decodeAt_of_encodes encodes (by omega)
  refine ⟨accepts text, ?_, ?_⟩
  · intro valid room
    exact (accepts _).mpr
      ⟨encodes_encode fun digits member => Number.isLiteral_iff.mp (valid digits member), room⟩
  · intro decoded
    exact ((accepts text).mp decoded).1.encode_eq_withoutBlanks

/-- A sum written with blanks wherever they may stand. -/
theorem decode_accepts_padded_sum :
    let text := " + ( n:1\t,\n n:2.50 ) ".toList
    let sum := Expr.binary .add (.literal ['1']) (.literal ['2', '.', '5', '0'])
    (Encodes text sum ∧ sum.depth ≤ 2) ∧ Encoding.decode ⟨0, 2⟩ sum.encode = .ok sum ∧
      sum.encode = Text.withoutBlanks text := by
  intro text sum
  obtain ⟨accepts, encoded, decoded⟩ := decode_accepts_grammar ⟨0, 2⟩ text sum
  have success : Encoding.decode ⟨0, 2⟩ text = .ok sum := by decide +kernel
  exact ⟨accepts.mp success, encoded (by decide) (by decide), decoded success⟩

end Calculator
