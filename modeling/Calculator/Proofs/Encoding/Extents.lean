import Mathlib.Data.List.Basic
import Calculator.Proofs.Encoding.Application
import Calculator.Proofs.Token.Scan

/-!
# Where operands stand

The operands that are read in a text are parts of it. They stand one after another and do not
overlap (`Text.InOrder`), and besides them the text has room for a symbol, two parentheses and the
commas. So their sizes in bytes add up to less than the size of the text (`extents_of_read`), and a
bound on the size of a text bounds what can be read in it, level by level.
-/

set_option autoImplicit false

namespace Calculator

namespace Text

/-- The pieces stand in the text, one after another and without overlap. -/
inductive InOrder : List (List Char) → List Char → Prop where
  | nil (text : List Char) : InOrder [] text
  | cons {piece : List Char} {others : List (List Char)} {rest : List Char} (before : List Char)
      (later : InOrder others rest) : InOrder (piece :: others) (before ++ piece ++ rest)

variable {pieces : List (List Char)} {text : List Char}

theorem InOrder.prepend (inOrder : InOrder pieces text) (before : List Char) :
    InOrder pieces (before ++ text) := by
  cases inOrder with
  | nil => exact .nil _
  | cons gap later =>
      rw [← List.append_assoc, ← List.append_assoc]
      exact .cons (before ++ gap) later

theorem InOrder.append (inOrder : InOrder pieces text) (after : List Char) :
    InOrder pieces (text ++ after) := by
  induction inOrder with
  | nil => exact .nil _
  | cons before later ih =>
      rw [List.append_assoc]
      exact .cons before ih

/-- A padded text has the pieces that it has without its padding. -/
theorem InOrder.of_padded {core : List Char} (inOrder : InOrder pieces core)
    (padded : Padded core text) : InOrder pieces text := by
  obtain ⟨before, after, rfl, _⟩ := padded
  exact (inOrder.prepend before).append after

/-- The trimmed form of a text stands in it, in front of what follows the text. -/
theorem InOrder.cons_trim {rest : List Char} (later : InOrder pieces rest) (text : List Char) :
    InOrder (trim text :: pieces) (text ++ rest) := by
  obtain ⟨before, after, whole, _⟩ := padded_trim text
  have placed : InOrder (trim text :: pieces) (before ++ trim text ++ (after ++ rest)) :=
    .cons before (later.prepend after)
  rwa [← List.append_assoc, ← whole] at placed

theorem Padded.byteLength_le {core text : List Char} (padded : Padded core text) :
    byteLength core ≤ byteLength text := by
  obtain ⟨before, after, rfl, _⟩ := padded
  rw [byteLength_append, byteLength_append]
  omega

end Text

namespace Encoding

/-- The sizes of texts in bytes, added up. -/
def byteLengths (texts : List (List Char)) : Nat :=
  texts.foldr (fun text size => byteLength text + size) 0

/-- The trimmed operands of a list stand in it in order. -/
theorem inOrder_intercalate (texts : List (List Char)) :
    Text.InOrder (texts.map Text.trim) ([','].intercalate texts) := by
  induction texts with
  | nil => exact .nil _
  | cons first others ih =>
      cases others with
      | nil =>
          have alone : Text.InOrder [Text.trim first] (first ++ []) := .cons_trim (.nil []) first
          rw [List.append_nil] at alone
          rw [List.intercalate_singleton]
          exact alone
      | cons second others =>
          rw [List.intercalate_cons_cons, List.append_assoc]
          exact .cons_trim (ih.prepend [',']) first

/-- A list of trimmed operands has room for its commas. -/
theorem byteLengths_intercalate_le {texts : List (List Char)} (nonempty : texts ≠ []) :
    byteLengths (texts.map Text.trim) + texts.length ≤
      byteLength ([','].intercalate texts) + 1 := by
  induction texts with
  | nil => exact absurd rfl nonempty
  | cons first others ih =>
      have trimmed := (Text.padded_trim first).byteLength_le
      cases others with
      | nil => simpa [byteLengths] using trimmed
      | cons second others =>
          have later := ih (List.cons_ne_nil _ _)
          have comma : byteLength [','] = 1 := rfl
          rw [List.intercalate_cons_cons, byteLength_append, byteLength_append]
          simp only [byteLengths, List.map_cons, List.foldr_cons, List.length_cons] at later ⊢
          omega

/-- A symbol takes at least one byte. -/
theorem byteLength_pos_of_symbol? {α : Type} {node : Node α} {symbol : List Char}
    (named : node.symbol? = some symbol) : 0 < byteLength symbol := by
  cases node with
  | literal digits => cases named
  | unary op operand =>
      cases named
      cases op <;> decide
  | binary op left right =>
      cases named
      cases op <;> decide
  | conditional condition whenTrue whenFalse =>
      cases named
      decide

/-- **The operands that are read in a text are parts of it.** They stand in the text in order and do
not overlap, and their sizes leave room for a symbol, the parentheses and the commas. -/
theorem extents_of_read {text : List Char} {node : Node (List Char)}
    (found : read text = .ok node) :
    Text.InOrder node.operands text ∧
      (node.operands ≠ [] →
        byteLengths node.operands + node.operands.length + 2 ≤ byteLength text) := by
  rcases padded_of_read found with
    ⟨digits, rfl, _⟩ | ⟨core, symbol, texts, named, namedBy, trimmed, padded⟩
  · exact ⟨.nil text, fun nonempty => absurd rfl nonempty⟩
  · rw [trimmed]
    constructor
    · have inside := ((inOrder_intercalate texts).append [')']).prepend (symbol ++ ['('])
      refine Text.InOrder.of_padded ?_ padded
      rwa [List.append_assoc] at inside
    · intro nonempty
      have room := byteLengths_intercalate_le (mt List.map_eq_nil_iff.mpr nonempty)
      have symbolSize := byteLength_pos_of_symbol? named
      have namedSize := namedBy.byteLength_le
      have size := padded.byteLength_le
      have parts : byteLength (application symbol texts) =
          byteLength symbol + (1 + (byteLength ([','].intercalate texts) + 1)) := by
        rw [application, byteLength_append, ← List.singleton_append, byteLength_append,
          byteLength_append]
        rfl
      rw [List.length_map]
      omega

end Encoding

end Calculator
