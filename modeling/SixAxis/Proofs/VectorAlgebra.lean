import SixAxis.Space.Vec
import SixAxis.Proofs.RealScalar

/-!
# Vectors in exact arithmetic

The products of vectors over the real numbers, by components, and the few identities that the
geometry of the arm rests on.

* `Vec.dot_cross_dot` — **Lagrange's identity**;
* `Vec.cross_cross` — a vector product with a vector product;
* `Vec.dot_shrink_length` — a vector divided by its length has length one.
-/

namespace SixAxis

attribute [ext] Vec

namespace Vec

/-! ### Components -/

@[simp] theorem add_x (a b : Vec ℝ) : (a + b).x = a.x + b.x := rfl

@[simp] theorem add_y (a b : Vec ℝ) : (a + b).y = a.y + b.y := rfl

@[simp] theorem add_z (a b : Vec ℝ) : (a + b).z = a.z + b.z := rfl

@[simp] theorem sub_x (a b : Vec ℝ) : (a - b).x = a.x - b.x := rfl

@[simp] theorem sub_y (a b : Vec ℝ) : (a - b).y = a.y - b.y := rfl

@[simp] theorem sub_z (a b : Vec ℝ) : (a - b).z = a.z - b.z := rfl

@[simp] theorem scale_x (a : Vec ℝ) (s : ℝ) : (a.scale s).x = a.x * s := rfl

@[simp] theorem scale_y (a : Vec ℝ) (s : ℝ) : (a.scale s).y = a.y * s := rfl

@[simp] theorem scale_z (a : Vec ℝ) (s : ℝ) : (a.scale s).z = a.z * s := rfl

@[simp] theorem shrink_x (a : Vec ℝ) (s : ℝ) : (a.shrink s).x = a.x / s := rfl

@[simp] theorem shrink_y (a : Vec ℝ) (s : ℝ) : (a.shrink s).y = a.y / s := rfl

@[simp] theorem shrink_z (a : Vec ℝ) (s : ℝ) : (a.shrink s).z = a.z / s := rfl

@[simp] theorem cross_x (a b : Vec ℝ) : (a.cross b).x = a.y * b.z - a.z * b.y := rfl

@[simp] theorem cross_y (a b : Vec ℝ) : (a.cross b).y = a.z * b.x - a.x * b.z := rfl

@[simp] theorem cross_z (a b : Vec ℝ) : (a.cross b).z = a.x * b.y - a.y * b.x := rfl

theorem zero_eq : (zero : Vec ℝ) = ⟨0, 0, 0⟩ := by
  simp [zero]

theorem unitX_eq : (unitX : Vec ℝ) = ⟨1, 0, 0⟩ := by
  simp [unitX]

theorem unitY_eq : (unitY : Vec ℝ) = ⟨0, 1, 0⟩ := by
  simp [unitY]

theorem unitZ_eq : (unitZ : Vec ℝ) = ⟨0, 0, 1⟩ := by
  simp [unitZ]

theorem dot_eq (a b : Vec ℝ) : a.dot b = a.x * b.x + a.y * b.y + a.z * b.z := rfl

theorem length_eq (a : Vec ℝ) : a.length = Real.sqrt (a.dot a) := rfl

/-! ### Products -/

theorem dot_comm (a b : Vec ℝ) : a.dot b = b.dot a := by
  simp only [dot_eq]
  ring

theorem dot_add (a b c : Vec ℝ) : a.dot (b + c) = a.dot b + a.dot c := by
  simp only [dot_eq, add_x, add_y, add_z]
  ring

theorem dot_sub (a b c : Vec ℝ) : a.dot (b - c) = a.dot b - a.dot c := by
  simp only [dot_eq, sub_x, sub_y, sub_z]
  ring

theorem dot_scale (a b : Vec ℝ) (s : ℝ) : a.dot (b.scale s) = a.dot b * s := by
  simp only [dot_eq, scale_x, scale_y, scale_z]
  ring

theorem dot_shrink (a b : Vec ℝ) (s : ℝ) : a.dot (b.shrink s) = a.dot b / s := by
  simp only [dot_eq, shrink_x, shrink_y, shrink_z]
  ring

theorem dot_cross_self (a b : Vec ℝ) : a.dot (a.cross b) = 0 := by
  simp only [dot_eq, cross_x, cross_y, cross_z]
  ring

theorem dot_cross_right (a b : Vec ℝ) : b.dot (a.cross b) = 0 := by
  simp only [dot_eq, cross_x, cross_y, cross_z]
  ring

theorem cross_cross (a b c : Vec ℝ) :
    a.cross (b.cross c) = b.scale (a.dot c) - c.scale (a.dot b) := by
  ext <;> simp [dot_eq] <;> ring

/-- **Lagrange's identity.** -/
theorem dot_cross_dot (a b c d : Vec ℝ) :
    (a.cross b).dot (c.cross d) = a.dot c * b.dot d - a.dot d * b.dot c := by
  simp only [dot_eq, cross_x, cross_y, cross_z]
  ring

theorem dot_self_nonneg (a : Vec ℝ) : 0 ≤ a.dot a := by
  rw [dot_eq]
  exact add_nonneg (add_nonneg (mul_self_nonneg _) (mul_self_nonneg _)) (mul_self_nonneg _)

/-! ### Lengths -/

theorem length_sq (a : Vec ℝ) : a.length * a.length = a.dot a :=
  Real.mul_self_sqrt (dot_self_nonneg a)

theorem length_unit {a : Vec ℝ} (h : a.dot a = 1) : a.length = 1 := by
  rw [length_eq, h, Real.sqrt_one]

theorem shrink_one (a : Vec ℝ) : a.shrink 1 = a := by
  ext <;> simp

theorem direction_unit {a : Vec ℝ} (h : a.dot a = 1) : a.direction = a := by
  rw [direction, length_unit h, shrink_one, ite_self]

/-- A vector divided by its length has length one. -/
theorem dot_shrink_length {a : Vec ℝ} (h : a.length ≠ 0) :
    (a.shrink a.length).dot (a.shrink a.length) = 1 := by
  have hsq := length_sq a
  rw [dot_eq] at hsq ⊢
  simp only [shrink_x, shrink_y, shrink_z]
  field_simp
  linarith

end Vec

end SixAxis
