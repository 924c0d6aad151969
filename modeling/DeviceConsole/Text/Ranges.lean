/-!
# `Text.Ranges` — sets of characters given by ranges of code points

A character class of a standard is a list of inclusive ranges in ascending order, and a character is in the
class when its code point lies in one of them.

## Contents

* `inRanges` — membership of a code point;
* `inRanges_iff` — membership is lying in a listed range.
-/

namespace DeviceConsole.Text

/-- Whether the code point lies in one of the inclusive ranges. -/
def inRanges (ranges : List (Nat × Nat)) (code : Nat) : Bool :=
  ranges.any fun range => decide (range.1 ≤ code) && decide (code ≤ range.2)

theorem inRanges_iff {ranges : List (Nat × Nat)} {code : Nat} :
    inRanges ranges code = true ↔ ∃ range ∈ ranges, range.1 ≤ code ∧ code ≤ range.2 := by
  simp [inRanges]

end DeviceConsole.Text
