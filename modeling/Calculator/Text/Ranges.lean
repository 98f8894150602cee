/-!
# Character classes given by ranges

A class of characters that a standard lists in a table is held as that table: a
list of closed ranges of code points. Membership is a scan of the list.
-/

set_option autoImplicit false

namespace Calculator.Text

/-- The code point of `c` lies in one of the closed ranges. -/
def inRanges (ranges : List (Nat × Nat)) (c : Char) : Bool :=
  ranges.any fun (first, last) => first ≤ c.toNat && c.toNat ≤ last

theorem inRanges_iff (ranges : List (Nat × Nat)) (c : Char) :
    inRanges ranges c = true ↔ ∃ range ∈ ranges, range.1 ≤ c.toNat ∧ c.toNat ≤ range.2 := by
  simp [inRanges]

end Calculator.Text
