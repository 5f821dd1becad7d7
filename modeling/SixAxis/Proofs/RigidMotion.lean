import SixAxis.Space.Motion
import SixAxis.Proofs.VectorAlgebra

/-!
# Rigid motions in exact arithmetic

Over the real numbers the motions form a monoid, and those that keep lengths and hands — the rigid
ones — have an inverse: the one that transposes the linear part.

* `Motion.IsRigid` — the images of the unit vectors are a right-handed orthonormal triple;
* `Motion.IsRigid.mul_inverse`, `Motion.IsRigid.inverse_mul` — **the inverse undoes**;
* `Motion.IsRigid.mul`, `Motion.IsRigid.inverse` — rigid motions make rigid motions.
-/

namespace SixAxis

attribute [ext] Motion

namespace Motion

/-! ### Linear parts -/

@[simp] theorem linear_x (m : Motion ℝ) (v : Vec ℝ) :
    (m.linear v).x = m.ex.x * v.x + m.ey.x * v.y + m.ez.x * v.z := rfl

@[simp] theorem linear_y (m : Motion ℝ) (v : Vec ℝ) :
    (m.linear v).y = m.ex.y * v.x + m.ey.y * v.y + m.ez.y * v.z := rfl

@[simp] theorem linear_z (m : Motion ℝ) (v : Vec ℝ) :
    (m.linear v).z = m.ex.z * v.x + m.ey.z * v.y + m.ez.z * v.z := rfl

theorem linear_add (m : Motion ℝ) (v w : Vec ℝ) :
    m.linear (v + w) = m.linear v + m.linear w := by
  ext <;> simp <;> ring

theorem linear_scale (m : Motion ℝ) (v : Vec ℝ) (s : ℝ) :
    m.linear (v.scale s) = (m.linear v).scale s := by
  ext <;> simp <;> ring

theorem linear_sub (m : Motion ℝ) (v w : Vec ℝ) : m.linear (v - w) = m.linear v - m.linear w := by
  ext <;> simp <;> ring

theorem linear_shrink (m : Motion ℝ) (v : Vec ℝ) (s : ℝ) :
    m.linear (v.shrink s) = (m.linear v).shrink s := by
  ext <;> simp <;> ring

theorem apply_eq (m : Motion ℝ) (p : Vec ℝ) : m.apply p = m.linear p + m.shift := rfl

theorem apply_sub_apply (m : Motion ℝ) (p q : Vec ℝ) :
    m.apply p - m.apply q = m.linear (p - q) := by
  ext <;> simp [apply_eq] <;> ring

/-- A motion is what it does to points. -/
theorem ext_apply {f g : Motion ℝ} (h : ∀ p, f.apply p = g.apply p) : f = g := by
  have h0 := h ⟨0, 0, 0⟩
  have hx := h ⟨1, 0, 0⟩
  have hy := h ⟨0, 1, 0⟩
  have hz := h ⟨0, 0, 1⟩
  simp only [apply_eq, Vec.ext_iff, Vec.add_x, Vec.add_y, Vec.add_z, linear_x, linear_y, linear_z,
    mul_zero, mul_one, add_zero, zero_add] at h0 hx hy hz
  obtain ⟨h0x, h0y, h0z⟩ := h0
  ext
  · linarith [hx.1]
  · linarith [hx.2.1]
  · linarith [hx.2.2]
  · linarith [hy.1]
  · linarith [hy.2.1]
  · linarith [hy.2.2]
  · linarith [hz.1]
  · linarith [hz.2.1]
  · linarith [hz.2.2]
  · exact h0x
  · exact h0y
  · exact h0z

/-! ### Composition -/

theorem mul_linear (f g : Motion ℝ) (v : Vec ℝ) :
    (f * g).linear v = f.linear (g.linear v) := by
  show (compose f g).linear v = _
  ext <;> simp [compose] <;> ring

theorem mul_apply (f g : Motion ℝ) (p : Vec ℝ) : (f * g).apply p = f.apply (g.apply p) := by
  show (compose f g).linear p + (compose f g).shift = _
  ext <;> simp [compose, apply_eq] <;> ring

theorem identity_linear (v : Vec ℝ) : (identity : Motion ℝ).linear v = v := by
  ext <;> simp [identity, Vec.unitX_eq, Vec.unitY_eq, Vec.unitZ_eq]

theorem identity_apply (p : Vec ℝ) : (identity : Motion ℝ).apply p = p := by
  rw [apply_eq, identity_linear]
  ext <;> simp [identity, Vec.zero_eq]

noncomputable instance : Monoid (Motion ℝ) where
  one := identity
  mul_assoc f g h := ext_apply fun p => by simp only [mul_apply]
  one_mul f := ext_apply fun p => by
    rw [mul_apply]
    exact identity_apply _
  mul_one f := ext_apply fun p => by
    rw [mul_apply]
    exact congrArg f.apply (identity_apply p)

theorem identity_eq_one : (identity : Motion ℝ) = 1 := rfl

/-! ### Rigid motions -/

/-- Whether the images of the unit vectors are orthonormal and right-handed. -/
structure IsRigid (m : Motion ℝ) : Prop where
  ex_unit : m.ex.dot m.ex = 1
  ey_unit : m.ey.dot m.ey = 1
  ex_ey : m.ex.dot m.ey = 0
  ez_eq : m.ez = m.ex.cross m.ey

namespace IsRigid

variable {m : Motion ℝ}

theorem ez_unit (h : m.IsRigid) : m.ez.dot m.ez = 1 := by
  rw [h.ez_eq, Vec.dot_cross_dot, h.ex_unit, h.ey_unit, h.ex_ey, Vec.dot_comm, h.ex_ey]
  ring

theorem ex_ez (h : m.IsRigid) : m.ex.dot m.ez = 0 := by
  rw [h.ez_eq, Vec.dot_cross_self]

theorem ey_ez (h : m.IsRigid) : m.ey.dot m.ez = 0 := by
  rw [h.ez_eq, Vec.dot_cross_right]

theorem ey_cross_ez (h : m.IsRigid) : m.ey.cross m.ez = m.ex := by
  rw [h.ez_eq, Vec.cross_cross, h.ey_unit, Vec.dot_comm, h.ex_ey]
  ext <;> simp

theorem ez_cross_ex (h : m.IsRigid) : m.ez.cross m.ex = m.ey := by
  have hneg : m.ez.cross m.ex = (m.ex.cross m.ez).scale (-1) := by
    ext <;> simp <;> ring
  rw [hneg, h.ez_eq, Vec.cross_cross, h.ex_unit, h.ex_ey]
  ext <;> simp

/-- Scalar products are kept. -/
theorem dot_linear (h : m.IsRigid) (v w : Vec ℝ) : (m.linear v).dot (m.linear w) = v.dot w := by
  have hxx := h.ex_unit
  have hyy := h.ey_unit
  have hzz := h.ez_unit
  have hxy := h.ex_ey
  have hxz := h.ex_ez
  have hyz := h.ey_ez
  simp only [Vec.dot_eq, linear_x, linear_y, linear_z] at *
  linear_combination v.x * w.x * hxx + v.y * w.y * hyy + v.z * w.z * hzz
    + (v.x * w.y + v.y * w.x) * hxy + (v.x * w.z + v.z * w.x) * hxz
    + (v.y * w.z + v.z * w.y) * hyz

/-- Vector products are kept. -/
theorem cross_linear (h : m.IsRigid) (v w : Vec ℝ) :
    (m.linear v).cross (m.linear w) = m.linear (v.cross w) := by
  have hx := h.ey_cross_ez
  have hy := h.ez_cross_ex
  have hz := h.ez_eq.symm
  simp only [Vec.ext_iff, Vec.cross_x, Vec.cross_y, Vec.cross_z] at hx hy hz
  ext
  · simp only [Vec.cross_x, linear_x, linear_y, linear_z, Vec.cross_y, Vec.cross_z]
    linear_combination (v.y * w.z - v.z * w.y) * hx.1 + (v.z * w.x - v.x * w.z) * hy.1
      + (v.x * w.y - v.y * w.x) * hz.1
  · simp only [Vec.cross_x, linear_x, linear_y, linear_z, Vec.cross_y, Vec.cross_z]
    linear_combination (v.y * w.z - v.z * w.y) * hx.2.1 + (v.z * w.x - v.x * w.z) * hy.2.1
      + (v.x * w.y - v.y * w.x) * hz.2.1
  · simp only [Vec.cross_x, linear_x, linear_y, linear_z, Vec.cross_y, Vec.cross_z]
    linear_combination (v.y * w.z - v.z * w.y) * hx.2.2 + (v.z * w.x - v.x * w.z) * hy.2.2
      + (v.x * w.y - v.y * w.x) * hz.2.2

/-! ### Inverses -/

theorem inverse_linear (m : Motion ℝ) (v : Vec ℝ) :
    m.inverse.linear v = ⟨m.ex.dot v, m.ey.dot v, m.ez.dot v⟩ := by
  ext <;> simp [inverse, transposed, Vec.dot_eq]

theorem inverse_shift (m : Motion ℝ) :
    m.inverse.shift = (m.inverse.linear m.shift).scale (-1) := by
  rw [inverse_linear]
  ext <;> simp [inverse, transposed, Vec.dot_eq]

/-- Undoing a rigid motion after it. -/
theorem inverse_mul (h : m.IsRigid) : m.inverse * m = 1 := by
  have hlinear (v : Vec ℝ) : m.inverse.linear (m.linear v) = v := by
    have hxy := h.ex_ey
    have hxz := h.ex_ez
    have hyz := h.ey_ez
    have hcoordinates : m.linear v = m.ex.scale v.x + m.ey.scale v.y + m.ez.scale v.z := rfl
    rw [inverse_linear, hcoordinates]
    simp only [Vec.dot_add, Vec.dot_scale, h.ex_unit, h.ey_unit, h.ez_unit, hxy, hxz, hyz,
      Vec.dot_comm m.ey m.ex, Vec.dot_comm m.ez m.ex, Vec.dot_comm m.ez m.ey]
    ext <;> simp
  refine ext_apply fun p => ?_
  rw [mul_apply, apply_eq, apply_eq, inverse_shift, linear_add, hlinear, ← identity_eq_one,
    identity_apply]
  ext <;> simp <;> ring

/-- Every vector is the sum of its parts along the three images. -/
theorem linear_inverse_linear (h : m.IsRigid) (v : Vec ℝ) :
    m.linear (m.inverse.linear v) = v := by
  -- `ez × (v × ez)` is the part of `v` across `ez`, and `v × ez` is taken apart in the same way
  have hacross : v.cross m.ez = m.ex.scale (v.dot m.ey) - m.ey.scale (v.dot m.ex) := by
    rw [h.ez_eq, Vec.cross_cross]
  have hparts := Vec.cross_cross m.ez v m.ez
  rw [hacross, h.ez_unit] at hparts
  have hx := h.ez_cross_ex
  have hy := h.ey_cross_ez
  simp only [Vec.ext_iff, Vec.cross_x, Vec.cross_y, Vec.cross_z, Vec.sub_x, Vec.sub_y, Vec.sub_z,
    Vec.scale_x, Vec.scale_y, Vec.scale_z] at hparts hx hy
  rw [inverse_linear]
  simp only [Vec.dot_comm v] at hparts
  ext
  · simp only [linear_x]
    linear_combination hparts.1 - m.ey.dot v * hx.1 - m.ex.dot v * hy.1
  · simp only [linear_y]
    linear_combination hparts.2.1 - m.ey.dot v * hx.2.1 - m.ex.dot v * hy.2.1
  · simp only [linear_z]
    linear_combination hparts.2.2 - m.ey.dot v * hx.2.2 - m.ex.dot v * hy.2.2

/-- Undoing a rigid motion before it. -/
theorem mul_inverse (h : m.IsRigid) : m * m.inverse = 1 := by
  refine ext_apply fun p => ?_
  rw [mul_apply, apply_eq, apply_eq, inverse_shift, linear_add, linear_scale,
    linear_inverse_linear h, linear_inverse_linear h, ← identity_eq_one, identity_apply]
  ext <;> simp

theorem inverse_mul_eq_iff (h : m.IsRigid) {a b : Motion ℝ} : m.inverse * a = b ↔ a = m * b := by
  constructor
  · rintro rfl
    rw [← mul_assoc, h.mul_inverse, one_mul]
  · rintro rfl
    rw [← mul_assoc, h.inverse_mul, one_mul]

theorem mul_inverse_eq_iff (h : m.IsRigid) {a b : Motion ℝ} : a * m.inverse = b ↔ a = b * m := by
  constructor
  · rintro rfl
    rw [mul_assoc, h.inverse_mul, mul_one]
  · rintro rfl
    rw [mul_assoc, h.mul_inverse, mul_one]

theorem inverse_apply_apply (h : m.IsRigid) (p : Vec ℝ) : m.inverse.apply (m.apply p) = p := by
  rw [← mul_apply, h.inverse_mul, ← identity_eq_one, identity_apply]

theorem apply_inverse_apply (h : m.IsRigid) (p : Vec ℝ) : m.apply (m.inverse.apply p) = p := by
  rw [← mul_apply, h.mul_inverse, ← identity_eq_one, identity_apply]

/-! ### Closure -/

theorem mul {f g : Motion ℝ} (hf : f.IsRigid) (hg : g.IsRigid) : (f * g).IsRigid where
  ex_unit := (hf.dot_linear _ _).trans hg.ex_unit
  ey_unit := (hf.dot_linear _ _).trans hg.ey_unit
  ex_ey := (hf.dot_linear _ _).trans hg.ex_ey
  ez_eq := by
    show f.linear g.ez = (f.linear g.ex).cross (f.linear g.ey)
    rw [hf.cross_linear, hg.ez_eq]

/-- A motion that keeps scalar and vector products is rigid. -/
theorem of_linear (hdot : ∀ v w, (m.linear v).dot (m.linear w) = v.dot w)
    (hcross : ∀ v w, (m.linear v).cross (m.linear w) = m.linear (v.cross w)) : m.IsRigid := by
  have hx : m.linear ⟨1, 0, 0⟩ = m.ex := by ext <;> simp
  have hy : m.linear ⟨0, 1, 0⟩ = m.ey := by ext <;> simp
  have hz : m.linear ⟨0, 0, 1⟩ = m.ez := by ext <;> simp
  refine ⟨?_, ?_, ?_, ?_⟩
  · rw [← hx, hdot]
    norm_num [Vec.dot_eq]
  · rw [← hy, hdot]
    norm_num [Vec.dot_eq]
  · rw [← hx, ← hy, hdot]
    norm_num [Vec.dot_eq]
  · rw [← hx, ← hy, ← hz, hcross]
    congr 1
    ext <;> simp

theorem one : (1 : Motion ℝ).IsRigid :=
  of_linear (fun v w => by rw [← identity_eq_one, identity_linear, identity_linear])
    (fun v w => by simp only [← identity_eq_one, identity_linear])

theorem inverse_one : (1 : Motion ℝ).inverse = 1 := by
  have h := one.inverse_mul
  rwa [mul_one] at h

/-- Undoing one motion after another undoes the later one first. -/
theorem inverse_rev {f g : Motion ℝ} (hf : f.IsRigid) (hg : g.IsRigid) :
    (f * g).inverse = g.inverse * f.inverse := by
  have hundone : 1 = f * g * (g.inverse * f.inverse) := by
    rw [mul_assoc, ← mul_assoc g, hg.mul_inverse, one_mul, hf.mul_inverse]
  have hinverse := ((hf.mul hg).inverse_mul_eq_iff).2 hundone
  rwa [mul_one] at hinverse

theorem inverse (h : m.IsRigid) : m.inverse.IsRigid := by
  refine of_linear (fun v w => ?_) fun v w => ?_
  · rw [← h.dot_linear, h.linear_inverse_linear, h.linear_inverse_linear]
  · have hback : m.inverse.linear (m.linear ((m.inverse.linear v).cross (m.inverse.linear w))) =
        (m.inverse.linear v).cross (m.inverse.linear w) := by
      rw [← mul_linear, h.inverse_mul, ← identity_eq_one, identity_linear]
    rw [← hback, ← h.cross_linear, h.linear_inverse_linear, h.linear_inverse_linear]

end IsRigid

theorem displacement_isRigid (v : Vec ℝ) : (displacement v).IsRigid := by
  constructor <;>
    simp [displacement, Vec.unitX_eq, Vec.unitY_eq, Vec.unitZ_eq, Vec.dot_eq, Vec.ext_iff]

end Motion

end SixAxis
