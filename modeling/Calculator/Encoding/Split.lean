import Calculator.Failure
import Calculator.Text.Blank

/-!
# Splitting a list of operands

The operands of an encoded operator are separated by the commas that stand
outside all parentheses. `pieces?` cuts a text at these commas, provided that its
parentheses balance: no part of it closes more than it opens, and in the end all
are closed.
-/

set_option autoImplicit false

namespace Calculator.Encoding

/-- A character in front of the first of several pieces. -/
def prepend (c : Char) (pieces : List Char × List (List Char)) : List Char × List (List Char) :=
  (c :: pieces.1, pieces.2)

/-- The pieces of a text between its outer commas, of which there is at least one, or nothing if
the parentheses do not balance. The text stands inside `depth` open parentheses, which it must
close. -/
def pieces? (depth : Nat) : List Char → Option (List Char × List (List Char))
  | [] => if depth = 0 then some ([], []) else none
  | c :: rest =>
      if c = '(' then (pieces? (depth + 1) rest).map (prepend c)
      else if c = ')' then
        match depth with
        | 0 => none
        | depth + 1 => (pieces? depth rest).map (prepend c)
      else if c = ',' ∧ depth = 0 then
        (pieces? 0 rest).map fun pieces => ([], pieces.1 :: pieces.2)
      else (pieces? depth rest).map (prepend c)

/-- The operands in the text between the parentheses of an operator, without the blanks around
them. A blank text holds no operands. -/
def operands (body : List Char) : Except EvalError (List (List Char)) :=
  if body.all Text.isBlank then .ok []
  else match pieces? 0 body with
    | some (first, others) => .ok ((first :: others).map Text.trim)
    | none => .error (.malformed body .unbalanced)

theorem length_le_of_mem_pieces {depth : Nat} {text piece : List Char}
    {pieces : List Char × List (List Char)} (found : pieces? depth text = some pieces)
    (member : piece ∈ pieces.1 :: pieces.2) : piece.length ≤ text.length := by
  induction text generalizing depth pieces piece with
  | nil =>
      simp only [pieces?] at found
      split at found
      · cases found
        simp only [List.mem_singleton] at member
        simp [member]
      · cases found
  | cons c rest ih =>
      have prepended {depth' : Nat} (found : (pieces? depth' rest).map (prepend c) = some pieces) :
          piece.length ≤ (c :: rest).length := by
        obtain ⟨later, split, rfl⟩ := Option.map_eq_some_iff.mp found
        simp only [prepend, List.mem_cons] at member
        rcases member with rfl | member
        · have := ih split (List.mem_cons_self ..)
          simp only [List.length_cons]
          omega
        · have := ih split (List.mem_cons_of_mem _ member)
          simp only [List.length_cons]
          omega
      simp only [pieces?] at found
      split at found
      · exact prepended found
      · split at found
        · split at found
          · cases found
          · exact prepended found
        · split at found
          · obtain ⟨later, split, rfl⟩ := Option.map_eq_some_iff.mp found
            rcases List.mem_cons.mp member with rfl | member
            · simp
            · have := ih split member
              simp only [List.length_cons]
              omega
          · exact prepended found

/-- An operand is no longer than the text that it was cut from. -/
theorem length_le_of_mem_operands {body operand : List Char} {found : List (List Char)}
    (split : operands body = .ok found) (member : operand ∈ found) :
    operand.length ≤ body.length := by
  unfold operands at split
  split at split
  · cases split
    cases member
  · split at split
    · rename_i pieces
      cases split
      obtain ⟨piece, within, rfl⟩ := List.mem_map.mp member
      exact Nat.le_trans (Text.length_trim_le piece) (length_le_of_mem_pieces pieces within)
    · cases split

end Calculator.Encoding
