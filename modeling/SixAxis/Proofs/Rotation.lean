import SixAxis.Proofs.RigidMotion

/-!
# Rotations in exact arithmetic

A rotation about a unit vector by Rodrigues' formula.  It depends on its angle only up to whole
turns, so the angle is compared in `Real.Angle`.

* `Motion.rotation_isRigid`, `Motion.rotation_neg` — a rotation is rigid, and the opposite angle
  undoes it;
* `Motion.rotation_mul_of_rigid` — **a rotation carried along by a motion** is the rotation about
  the axis carried along;
* `Vec.planar_rotation` — in the plane across its axis a rotation multiplies by a complex number of
  length one.
-/

namespace SixAxis

namespace Motion

variable {n : Vec ℝ}

/-- Rodrigues' formula. -/
theorem rotation_linear (hn : n.dot n = 1) (θ : ℝ) (c v : Vec ℝ) :
    (rotation n θ c).linear v =
      v.scale (Real.cos θ) + (n.cross v).scale (Real.sin θ)
        + n.scale ((1 - Real.cos θ) * n.dot v) := by
  ext <;> simp [rotation, Vec.direction_unit hn, Vec.dot_eq] <;> ring

theorem rotation_apply (n : Vec ℝ) (θ : ℝ) (c p : Vec ℝ) :
    (rotation n θ c).apply p = c + (rotation n θ c).linear (p - c) := by
  ext <;> simp [rotation, apply_eq] <;> ring

/-- The centre of a rotation stays where it is. -/
theorem rotation_apply_center (n : Vec ℝ) (θ : ℝ) (c : Vec ℝ) :
    (rotation n θ c).apply c = c := by
  rw [rotation_apply]
  ext <;> simp

/-- The axis of a rotation keeps its direction. -/
theorem rotation_linear_axis (hn : n.dot n = 1) (θ : ℝ) (c : Vec ℝ) :
    (rotation n θ c).linear n = n := by
  rw [rotation_linear hn, hn]
  ext <;> simp <;> ring

/-- A rotation is rigid. -/
theorem rotation_isRigid (hn : n.dot n = 1) (θ : ℝ) (c : Vec ℝ) : (rotation n θ c).IsRigid := by
  have hcs := Real.sin_sq_add_cos_sq θ
  refine IsRigid.of_linear (fun v w => ?_) fun v w => ?_
  · rw [rotation_linear hn, rotation_linear hn]
    simp only [Vec.dot_eq, Vec.add_x, Vec.add_y, Vec.add_z, Vec.scale_x, Vec.scale_y, Vec.scale_z,
      Vec.cross_x, Vec.cross_y, Vec.cross_z] at hn ⊢
    linear_combination
      ((v.x * w.x + v.y * w.y + v.z * w.z)
        - (n.x * v.x + n.y * v.y + n.z * v.z) * (n.x * w.x + n.y * w.y + n.z * w.z)) * hcs
      + (Real.sin θ ^ 2 * (v.x * w.x + v.y * w.y + v.z * w.z)
        + (1 - Real.cos θ) ^ 2
          * ((n.x * v.x + n.y * v.y + n.z * v.z) * (n.x * w.x + n.y * w.y + n.z * w.z))) * hn
  · -- both sides differ by multiples of `n · n - 1` and of `sin² + cos² - 1`
    rw [rotation_linear hn, rotation_linear hn, rotation_linear hn]
    simp only [Vec.dot_eq] at hn
    ext <;> simp only [Vec.dot_eq, Vec.add_x, Vec.add_y, Vec.add_z, Vec.scale_x, Vec.scale_y,
      Vec.scale_z, Vec.cross_x, Vec.cross_y, Vec.cross_z]
    · linear_combination
        (Real.cos θ * (1 - Real.cos θ) * (v.y * w.z - v.z * w.y) + Real.sin θ * (1 - Real.cos θ)
          * (n.y * (v.x * w.y - v.y * w.x) - n.z * (v.z * w.x - v.x * w.z))) * hn
        + n.x * (n.x * (v.y * w.z - v.z * w.y) + n.y * (v.z * w.x - v.x * w.z)
          + n.z * (v.x * w.y - v.y * w.x)) * hcs
    · linear_combination
        (Real.cos θ * (1 - Real.cos θ) * (v.z * w.x - v.x * w.z) + Real.sin θ * (1 - Real.cos θ)
          * (n.z * (v.y * w.z - v.z * w.y) - n.x * (v.x * w.y - v.y * w.x))) * hn
        + n.y * (n.x * (v.y * w.z - v.z * w.y) + n.y * (v.z * w.x - v.x * w.z)
          + n.z * (v.x * w.y - v.y * w.x)) * hcs
    · linear_combination
        (Real.cos θ * (1 - Real.cos θ) * (v.x * w.y - v.y * w.x) + Real.sin θ * (1 - Real.cos θ)
          * (n.x * (v.z * w.x - v.x * w.z) - n.y * (v.y * w.z - v.z * w.y))) * hn
        + n.z * (n.x * (v.y * w.z - v.z * w.y) + n.y * (v.z * w.x - v.x * w.z)
          + n.z * (v.x * w.y - v.y * w.x)) * hcs

/-- The opposite angle undoes a rotation. -/
theorem rotation_neg (hn : n.dot n = 1) (θ : ℝ) (c : Vec ℝ) :
    rotation n (-θ) c = (rotation n θ c).inverse := by
  have hrigid := rotation_isRigid hn θ c
  have hlinear (v : Vec ℝ) : (rotation n (-θ) c).linear v = (rotation n θ c).inverse.linear v := by
    rw [IsRigid.inverse_linear]
    ext <;> simp [rotation, Vec.direction_unit hn, Vec.dot_eq, sub_eq_add_neg]
  refine ext_apply fun p => ?_
  have hback := hrigid.apply_inverse_apply p
  -- both take the point that the rotation brings to `p` back to where it was
  rw [← hback, hrigid.inverse_apply_apply, rotation_apply n (-θ), hlinear, rotation_apply n θ]
  set q := (rotation n θ c).inverse.apply p
  have hcancel : c + (rotation n θ c).linear (q - c) - c = (rotation n θ c).linear (q - c) := by
    ext <;> simp
  rw [hcancel, ← mul_linear, hrigid.inverse_mul, ← identity_eq_one, identity_linear]
  ext <;> simp

/-- A rotation depends on its angle up to whole turns. -/
theorem rotation_congr {θ φ : ℝ} (h : (θ : Real.Angle) = φ) (n c : Vec ℝ) :
    rotation n θ c = rotation n φ c := by
  have hcos : Real.cos θ = Real.cos φ := by
    rw [← Real.Angle.cos_coe, h, Real.Angle.cos_coe]
  have hsin : Real.sin θ = Real.sin φ := by
    rw [← Real.Angle.sin_coe, h, Real.Angle.sin_coe]
  simp only [rotation, Scalar.cos_real, Scalar.sin_real, hcos, hsin]

theorem rotation_zero (hn : n.dot n = 1) (c : Vec ℝ) : rotation n 0 c = 1 := by
  refine ext_apply fun p => ?_
  rw [rotation_apply, rotation_linear hn, ← identity_eq_one, identity_apply]
  ext <;> simp

/-- **A rotation carried along by a motion.** -/
theorem rotation_mul_of_rigid {m : Motion ℝ} (hm : m.IsRigid) (hn : n.dot n = 1) (θ : ℝ)
    (c : Vec ℝ) : rotation (m.linear n) θ (m.apply c) * m = m * rotation n θ c := by
  have hcarried : (m.linear n).dot (m.linear n) = 1 := by
    rw [hm.dot_linear, hn]
  refine ext_apply fun p => ?_
  rw [mul_apply, mul_apply, rotation_apply, rotation_apply, apply_sub_apply,
    rotation_linear hcarried, rotation_linear hn, hm.cross_linear, hm.dot_linear]
  ext <;> simp [apply_eq, Vec.dot_eq] <;> ring

/-- A point on the axis stays where it is. -/
theorem rotation_apply_of_on_axis (hn : n.dot n = 1) (θ : ℝ) {c p : Vec ℝ}
    (h : n.cross (p - c) = .zero) : (rotation n θ c).apply p = p := by
  have hparts := Vec.cross_cross n (p - c) n
  have hflip : (p - c).cross n = .zero := by
    rw [Vec.zero_eq] at h ⊢
    simp only [Vec.ext_iff, Vec.cross_x, Vec.cross_y, Vec.cross_z, Vec.sub_x, Vec.sub_y,
      Vec.sub_z] at h ⊢
    exact ⟨by linarith [h.1], by linarith [h.2.1], by linarith [h.2.2]⟩
  rw [hflip, hn, Vec.zero_eq] at hparts
  rw [rotation_apply, rotation_linear hn, h, Vec.zero_eq]
  simp only [Vec.ext_iff, Vec.cross_x, Vec.cross_y, Vec.cross_z, Vec.sub_x, Vec.sub_y, Vec.sub_z,
    Vec.scale_x, Vec.scale_y, Vec.scale_z, Vec.add_x, Vec.add_y, Vec.add_z] at hparts ⊢
  refine ⟨?_, ?_, ?_⟩
  · linear_combination (1 - Real.cos θ) * hparts.1
  · linear_combination (1 - Real.cos θ) * hparts.2.1
  · linear_combination (1 - Real.cos θ) * hparts.2.2

/-- The part along the axis stays what it is. -/
theorem rotation_linear_dot_axis (hn : n.dot n = 1) (θ : ℝ) (c v : Vec ℝ) :
    ((rotation n θ c).linear v).dot n = v.dot n := by
  rw [rotation_linear hn, Vec.dot_comm, Vec.dot_add, Vec.dot_add, Vec.dot_scale, Vec.dot_scale,
    Vec.dot_scale, Vec.dot_cross_self, hn, Vec.dot_comm v n]
  ring

end Motion

/-! ### The plane across an axis -/

namespace Vec

/-- The part of a vector in the plane of two directions, as a complex number. -/
noncomputable def planar (a b v : Vec ℝ) : ℂ := ⟨v.dot a, v.dot b⟩

theorem planar_add (a b v w : Vec ℝ) : planar a b (v + w) = planar a b v + planar a b w := by
  apply Complex.ext
  · simp only [planar, Complex.add_re]
    rw [dot_comm, dot_add, dot_comm a, dot_comm a]
  · simp only [planar, Complex.add_im]
    rw [dot_comm, dot_add, dot_comm b, dot_comm b]

theorem planar_sub (a b v w : Vec ℝ) : planar a b (v - w) = planar a b v - planar a b w := by
  apply Complex.ext
  · simp only [planar, Complex.sub_re]
    rw [dot_comm, dot_sub, dot_comm a, dot_comm a]
  · simp only [planar, Complex.sub_im]
    rw [dot_comm, dot_sub, dot_comm b, dot_comm b]

/-- Two directions that make a right-handed orthonormal triple with an axis behind them. -/
structure Across (n a b : Vec ℝ) : Prop where
  axis_unit : n.dot n = 1
  unit : a.dot a = 1
  level : n.dot a = 0
  side : b = n.cross a

namespace Across

variable {n a b : Vec ℝ}

/-- The triple as a motion. -/
theorem isRigid (h : Across n a b) : (⟨a, b, n, .zero⟩ : Motion ℝ).IsRigid where
  ex_unit := h.unit
  ey_unit := by
    show b.dot b = 1
    rw [h.side, dot_cross_dot, h.axis_unit, h.unit, h.level, dot_comm a, h.level]
    ring
  ex_ey := by
    show a.dot b = 0
    rw [h.side, dot_cross_right]
  ez_eq := by
    show n = a.cross b
    rw [h.side, cross_cross, h.unit, dot_comm a, h.level]
    ext <;> simp

theorem coordinates (n a b u : Vec ℝ) : (⟨a, b, n, .zero⟩ : Motion ℝ).inverse.linear u =
    ⟨(planar a b u).re, (planar a b u).im, u.dot n⟩ := by
  rw [Motion.IsRigid.inverse_linear]
  simp only [planar, dot_comm]

/-- A vector is known from its part in the plane and its part along the axis. -/
theorem ext (h : Across n a b) {v w : Vec ℝ} (hplane : planar a b v = planar a b w)
    (haxis : v.dot n = w.dot n) : v = w := by
  rw [← h.isRigid.linear_inverse_linear v, ← h.isRigid.linear_inverse_linear w, coordinates,
    coordinates, hplane, haxis]

/-- The scalar product by coordinates. -/
theorem dot_eq_coordinates (h : Across n a b) (v w : Vec ℝ) :
    v.dot w = (planar a b v).re * (planar a b w).re + (planar a b v).im * (planar a b w).im
      + v.dot n * w.dot n := by
  rw [← h.isRigid.inverse.dot_linear v w, coordinates, coordinates]
  rfl

/-- The part of a vector product along the axis, by coordinates. -/
theorem cross_dot_axis (h : Across n a b) (v w : Vec ℝ) :
    (v.cross w).dot n =
      (planar a b v).re * (planar a b w).im - (planar a b v).im * (planar a b w).re := by
  have hcross := h.isRigid.inverse.cross_linear v w
  rw [coordinates, coordinates, coordinates] at hcross
  exact (congrArg z hcross).symm

/-- In the plane across its axis a rotation multiplies by a complex number of length one. -/
theorem planar_rotation (h : Across n a b) (θ : ℝ) (c v : Vec ℝ) :
    planar a b ((Motion.rotation n θ c).linear v) = heading θ * planar a b v := by
  have hfirst : a.dot (n.cross v) = -(v.dot b) := by
    rw [h.side]
    simp only [dot_eq, cross_x, cross_y, cross_z]
    ring
  have hsecond : b.dot (n.cross v) = v.dot a := by
    rw [h.side, dot_cross_dot, h.axis_unit, dot_comm a n, h.level, dot_comm a v]
    ring
  have hlevel : b.dot n = 0 := by
    rw [h.side, dot_comm, dot_cross_self]
  rw [Motion.rotation_linear h.axis_unit]
  apply Complex.ext
  · rw [Complex.mul_re, heading_re, heading_im]
    simp only [planar]
    rw [dot_comm, dot_add, dot_add, dot_scale, dot_scale, dot_scale, hfirst, dot_comm a n, h.level,
      dot_comm a v]
    ring
  · rw [Complex.mul_im, heading_re, heading_im]
    simp only [planar]
    rw [dot_comm, dot_add, dot_add, dot_scale, dot_scale, dot_scale, hsecond, hlevel, dot_comm b v]
    ring

end Across

end Vec

end SixAxis
