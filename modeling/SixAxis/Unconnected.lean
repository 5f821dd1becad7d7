import SixAxis.Scalar

/-!
# The marker of an unconnected axis

A joint vector has a slot for every external axis that could be there.  A slot without an axis
holds the marker `9e9`; a value counts as the marker when it agrees with it to twelve digits.
-/

namespace SixAxis

variable {R : Type} [Scalar R]

/-- The value of a slot that no axis is connected to. -/
def unconnected : R := 9000000000.0

/-- The relative difference up to which a value counts as the marker. -/
def markerTolerance : R := 0.000000000001

/-- Whether a value is the marker: equal to it, or as close as the tolerance allows beside the
larger of the two. -/
def isUnconnected (v : R) : Bool :=
  let gap := Scalar.abs (unconnected - v)
  v == unconnected || (!Scalar.infinite v &&
    (decide (gap ≤ Scalar.abs (markerTolerance * unconnected))
      || decide (gap ≤ Scalar.abs (markerTolerance * v))))

end SixAxis
