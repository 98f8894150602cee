import Calculator.Text.Ranges

/-!
# Blank characters and trimming

A character is blank when it has the Unicode property White_Space. Encoded
expressions, and the input of the command line, may be padded with blanks on
either side; `trim` takes the padding off. The separators of source text are a
smaller class, which `Calculator.Token.Scan` fixes.
-/

set_option autoImplicit false

namespace Calculator.Text

/-- The code points with the Unicode property White_Space. -/
def blankRanges : List (Nat × Nat) :=
  [(0x9, 0xd), (0x20, 0x20), (0x85, 0x85), (0xa0, 0xa0), (0x1680, 0x1680), (0x2000, 0x200a),
   (0x2028, 0x2029), (0x202f, 0x202f), (0x205f, 0x205f), (0x3000, 0x3000)]

/-- The character has the Unicode property White_Space. -/
def isBlank (c : Char) : Bool :=
  inRanges blankRanges c

/-- The text is `core` with blanks around it. -/
def Padded (core text : List Char) : Prop :=
  ∃ before after, text = before ++ core ++ after ∧
    (∀ c ∈ before, isBlank c) ∧ ∀ c ∈ after, isBlank c

/-- A text without the blanks that it starts with. -/
def trimStart (text : List Char) : List Char :=
  text.dropWhile isBlank

/-- A text without the blanks that it ends with. -/
def trimEnd (text : List Char) : List Char :=
  (trimStart text.reverse).reverse

/-- A text without the blanks on either side. -/
def trim (text : List Char) : List Char :=
  trimEnd (trimStart text)

theorem length_trimStart_le (text : List Char) : (trimStart text).length ≤ text.length :=
  (List.dropWhile_sublist isBlank).length_le

theorem length_trimEnd_le (text : List Char) : (trimEnd text).length ≤ text.length := by
  have := length_trimStart_le text.reverse
  simpa [trimEnd] using this

/-- Trimming never lengthens a text. -/
theorem length_trim_le (text : List Char) : (trim text).length ≤ text.length :=
  Nat.le_trans (length_trimEnd_le _) (length_trimStart_le _)

end Calculator.Text
