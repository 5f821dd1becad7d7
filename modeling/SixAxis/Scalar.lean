/-!
# Scalars

The geometry of the arm is written once, over any type of scalars that has the usual
arithmetic, an order, a square root and the trigonometric functions.  The program computes
with doubles (the instance at the end of `SixAxis.Decimal.Remainder`); a statement about
exact arithmetic instantiates the same definitions at the real numbers.

Only what the geometry needs is a field of the class:

* `remainder x y` is the remainder of a division that takes the **sign of the divisor**,
  so that angles wrap downward;
* `ofInt` brings whole numbers in, and `whole? x n` tells how `x` compares with `n` **without
  rounding `n`**, and is `none` where `x` is not comparable at all;
* `infinite x` marks the values that no finite number is close to.
-/

namespace SixAxis

/-- The arithmetic that positions, directions, angles and limits are written in. -/
class Scalar (R : Type) extends
    Add R, Sub R, Mul R, Div R, Neg R, LT R, LE R, BEq R, OfScientific R where
  decLT : ∀ a b : R, Decidable (a < b)
  decLE : ∀ a b : R, Decidable (a ≤ b)
  /-- Half the circumference of the unit circle. -/
  pi : R
  sqrt : R → R
  sin : R → R
  cos : R → R
  acos : R → R
  /-- Angle of the point with ordinate `y` and abscissa `x`, in that order. -/
  atan2 : R → R → R
  abs : R → R
  /-- Remainder of a division, with the sign of the divisor. -/
  remainder : R → R → R
  infinite : R → Bool
  ofInt : Int → R
  /-- Comparison with a whole number, exact for any size of it. -/
  whole? : R → Int → Option Ordering

-- a type with operations of its own keeps writing them as its own
attribute [instance (100)] Scalar.toAdd Scalar.toSub Scalar.toMul Scalar.toDiv Scalar.toNeg
  Scalar.toLT Scalar.toLE Scalar.toBEq Scalar.toOfScientific

namespace Scalar

variable {R : Type} [Scalar R]

instance : DecidableLT R := Scalar.decLT

instance : DecidableLE R := Scalar.decLE

instance : Inhabited R := ⟨0.0⟩

/-- Whether a scalar is a number, and not an infinite one. -/
def isFinite (x : R) : Bool := !infinite x && x == x

/-- The larger of two scalars, the first one when neither is smaller. -/
def larger (a b : R) : R := if a < b then b else a

/-- The smaller of two scalars, the first one when neither is larger. -/
def smaller (a b : R) : R := if b < a then b else a

/-- An angle in degrees, in radians. -/
def radians (degrees : R) : R := degrees * (pi / 180.0)

/-- An angle in radians, in degrees. -/
def degrees (radians : R) : R := radians * (180.0 / pi)

end Scalar

end SixAxis
