/-!
# Character classes as ranges of code points

A class of characters that a standard lists is kept as the ascending list of its ranges, both ends
included, so that membership is a statement about natural numbers and each class is one value.
-/

set_option autoImplicit false

namespace DurableJobs.Text

/-- Whether a code point lies in one of the ranges. -/
def inRanges (ranges : List (Nat × Nat)) (point : Nat) : Bool :=
  ranges.any fun range => range.1 ≤ point && point ≤ range.2

theorem inRanges_iff (ranges : List (Nat × Nat)) (point : Nat) :
    inRanges ranges point = true ↔ ∃ range ∈ ranges, range.1 ≤ point ∧ point ≤ range.2 := by
  simp [inRanges]

end DurableJobs.Text
