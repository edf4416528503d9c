/-!
# Ranges of code points

A character class of the Unicode standard is a list of closed ranges.
-/

namespace Canopen.Text

/-- A closed range of code points, least first. -/
abbrev Range := Nat × Nat

/-- Some range of the list holds the code point. -/
def inRanges (ranges : List Range) (code : Nat) : Bool :=
  ranges.any fun range => range.1 ≤ code && code ≤ range.2

theorem inRanges_iff (ranges : List Range) (code : Nat) :
    inRanges ranges code = true ↔ ∃ range ∈ ranges, range.1 ≤ code ∧ code ≤ range.2 := by
  simp [inRanges]

end Canopen.Text
