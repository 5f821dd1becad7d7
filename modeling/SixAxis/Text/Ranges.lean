/-!
# Classes of characters as ranges of code points

A class is a list of ranges, both ends included, in ascending order.
-/

namespace SixAxis.Text

/-- Whether a character lies in one of the ranges. -/
def inRanges (ranges : List (Nat × Nat)) (c : Char) : Bool :=
  ranges.any fun (low, high) => low ≤ c.toNat && c.toNat ≤ high

end SixAxis.Text
