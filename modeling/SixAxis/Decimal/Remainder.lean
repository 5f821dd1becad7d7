import SixAxis.Scalar
import SixAxis.Decimal.Binary

/-!
# The scalars of the program

Doubles are scalars.  Two of their operations are not machine instructions and are defined
here in exact whole-number arithmetic:

* `exactRemainder` — the remainder of a truncated division, which is always a double itself;
* `flooredRemainder` — the same moved to the sign of the divisor, rounded by that one addition;
* `compareWhole?` — a double against a whole number of any size, without rounding either.
-/

namespace SixAxis.Decimal

/-- Remainder of the division of `x` by `y` truncated toward zero, with the sign of `x`;
not a number where the division has no result. -/
def exactRemainder (x y : Float) : Float :=
  match Binary.ofFloat? x, Binary.ofFloat? y with
  | some a, some b =>
    if b.mantissa = 0 then 0.0 / 0.0
    else
      let exponent := min a.exponent b.exponent
      let scaled (c : Binary) : Nat := c.mantissa * twoTo (c.exponent - exponent).toNat
      Binary.toFloat ⟨a.negative, scaled a % scaled b, exponent⟩
  | some _, none => if y.isNaN then y else x
  | none, _ => 0.0 / 0.0

/-- Remainder with the sign of the divisor. -/
def flooredRemainder (x y : Float) : Float :=
  let r := exactRemainder x y
  if r == 0.0 then (if y < 0.0 then -0.0 else 0.0)
  else if (decide (y < 0.0)) == (decide (r < 0.0)) || r.isNaN then r
  else r + y

/-- A double against a whole number. -/
def compareWhole? (x : Float) (n : Int) : Option Ordering :=
  match Binary.ofFloat? x with
  | some b => some (compare b.signedFraction.1 (n * b.signedFraction.2))
  | none => if x.isNaN then none else some (if x < 0.0 then .lt else .gt)

end SixAxis.Decimal

namespace SixAxis

instance : Scalar Float where
  decLT := fun a b => inferInstanceAs (Decidable (a < b))
  decLE := fun a b => inferInstanceAs (Decidable (a ≤ b))
  pi := 3.141592653589793
  sqrt := Float.sqrt
  sin := Float.sin
  cos := Float.cos
  acos := Float.acos
  atan2 := Float.atan2
  abs := Float.abs
  remainder := Decimal.flooredRemainder
  infinite := Float.isInf
  ofInt := Decimal.Binary.floatOfInt
  whole? := Decimal.compareWhole?

end SixAxis
