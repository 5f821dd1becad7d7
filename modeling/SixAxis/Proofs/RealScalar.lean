import SixAxis.Scalar
import Mathlib.Analysis.SpecialFunctions.Complex.Arg
import Mathlib.Analysis.SpecialFunctions.Trigonometric.Angle
import Mathlib.Tactic

/-!
# Exact arithmetic

The real numbers are scalars, so every definition of the geometry has an exact reading besides the
one over doubles.  Statements about where the arm goes are about the exact reading: no rounding,
and no value that is not a number.

The angle of a point in the plane is the argument of a complex number, and the remainder of a
division takes the sign of the divisor.  Angles of the same position are equal in `Real.Angle`, and
`heading` is the point that they share on the unit circle.
-/

namespace SixAxis

noncomputable instance : Scalar ℝ where
  decLT := fun a b => inferInstanceAs (Decidable (a < b))
  decLE := fun a b => inferInstanceAs (Decidable (a ≤ b))
  beq := fun a b => decide (a = b)
  pi := Real.pi
  sqrt := Real.sqrt
  sin := Real.sin
  cos := Real.cos
  acos := Real.arccos
  atan2 := fun y x => Complex.arg ⟨x, y⟩
  abs := fun x => |x|
  remainder := fun x y => x - y * ⌊x / y⌋
  infinite := fun _ => false
  ofInt := fun n => n
  whole? := fun x n => some (compare x n)

namespace Scalar

@[simp] theorem pi_real : (pi : ℝ) = Real.pi := rfl

@[simp] theorem sqrt_real (x : ℝ) : sqrt x = Real.sqrt x := rfl

@[simp] theorem sin_real (x : ℝ) : sin x = Real.sin x := rfl

@[simp] theorem cos_real (x : ℝ) : cos x = Real.cos x := rfl

@[simp] theorem acos_real (x : ℝ) : acos x = Real.arccos x := rfl

@[simp] theorem atan2_real (y x : ℝ) : atan2 y x = Complex.arg ⟨x, y⟩ := rfl

@[simp] theorem abs_real (x : ℝ) : abs x = |x| := rfl

@[simp] theorem beq_real (x y : ℝ) : (x == y) = decide (x = y) := rfl

/-! ### Literals -/

@[simp] theorem literal_zero : Scalar.toOfScientific.ofScientific 0 true 1 = (0 : ℝ) := by
  norm_num

@[simp] theorem literal_one : Scalar.toOfScientific.ofScientific 10 true 1 = (1 : ℝ) := by
  norm_num

@[simp] theorem literal_two : Scalar.toOfScientific.ofScientific 20 true 1 = (2 : ℝ) := by
  norm_num

@[simp] theorem literal_half_turn :
    Scalar.toOfScientific.ofScientific 1800 true 1 = (180 : ℝ) := by
  norm_num

@[simp] theorem literal_turn :
    Scalar.toOfScientific.ofScientific 3600 true 1 = (360 : ℝ) := by
  norm_num

/-! ### Derived operations -/

theorem larger_real (x y : ℝ) : larger x y = max x y := by
  rw [larger, max_def_lt]

theorem smaller_real (x y : ℝ) : smaller x y = min x y := by
  rw [smaller, min_comm, min_def_lt]

theorem radians_real (x : ℝ) : radians x = x * (Real.pi / 180) := by
  simp [radians]

theorem degrees_real (x : ℝ) : degrees x = x * (180 / Real.pi) := by
  simp [degrees]

theorem degrees_radians (x : ℝ) : degrees (radians x) = x := by
  rw [radians_real, degrees_real]
  field_simp

theorem radians_degrees (x : ℝ) : radians (degrees x) = x := by
  rw [radians_real, degrees_real]
  field_simp

end Scalar

/-! ### Headings -/

/-- The point on the unit circle in the direction of an angle. -/
noncomputable def heading (θ : ℝ) : ℂ := Complex.exp (θ * Complex.I)

theorem heading_re (θ : ℝ) : (heading θ).re = Real.cos θ := Complex.exp_ofReal_mul_I_re θ

theorem heading_im (θ : ℝ) : (heading θ).im = Real.sin θ := Complex.exp_ofReal_mul_I_im θ

theorem norm_heading (θ : ℝ) : ‖heading θ‖ = 1 := Complex.norm_exp_ofReal_mul_I θ

theorem norm_heading_mul (θ : ℝ) (z : ℂ) : ‖heading θ * z‖ = ‖z‖ := by
  rw [norm_mul, norm_heading, one_mul]

theorem heading_ne_zero (θ : ℝ) : heading θ ≠ 0 := Complex.exp_ne_zero _

theorem heading_add (θ φ : ℝ) : heading (θ + φ) = heading θ * heading φ := by
  rw [heading, heading, heading, ← Complex.exp_add]
  congr 1
  push_cast
  ring

theorem heading_zero : heading 0 = 1 := by
  simp [heading]

theorem heading_neg_mul (θ : ℝ) : heading (-θ) * heading θ = 1 := by
  rw [← heading_add, neg_add_cancel, heading_zero]

/-- Angles of the same position have the same heading. -/
theorem heading_congr {θ φ : ℝ} (h : (θ : Real.Angle) = φ) : heading θ = heading φ := by
  apply Complex.ext
  · rw [heading_re, heading_re, ← Real.Angle.cos_coe, h, Real.Angle.cos_coe]
  · rw [heading_im, heading_im, ← Real.Angle.sin_coe, h, Real.Angle.sin_coe]

/-- A complex number is its length in its direction. -/
theorem norm_mul_heading_arg (z : ℂ) : ‖z‖ * heading z.arg = z := Complex.norm_mul_exp_arg_mul_I z

theorem coe_arg_heading (θ : ℝ) : ((heading θ).arg : Real.Angle) = θ := by
  have h := Complex.arg_cos_add_sin_mul_I_coe_angle (θ : Real.Angle)
  rwa [Real.Angle.cos_coe, Real.Angle.sin_coe, Complex.ofReal_cos, Complex.ofReal_sin,
    ← Complex.exp_mul_I] at h

/-- Turning a complex number adds to its angle. -/
theorem coe_arg_heading_mul (θ : ℝ) {z : ℂ} (hz : z ≠ 0) :
    ((heading θ * z).arg : Real.Angle) = θ + z.arg := by
  rw [Complex.arg_mul_coe_angle (heading_ne_zero θ) hz, coe_arg_heading]

end SixAxis
