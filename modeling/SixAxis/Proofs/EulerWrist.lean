import SixAxis.Arm.Wrist
import SixAxis.Proofs.Rotation

/-!
# The wrist in exact arithmetic

In the basis of the wrist a turn is a product of turns about the first, the second and again the
first direction.

* `Wrist.turnOf_decompose` — **both triples of angles compose to the turn** that they are read off,
  as long as its sine is zero or not counted as zero;
* `Wrist.decompose_euler` — **there are no other triples** where the sine is not counted as zero,
  and the sign of the sine of the second angle tells which one it is.
-/

namespace SixAxis

namespace Motion

/-- A rigid motion that leaves the origin in place is known from its first two images. -/
theorem IsRigid.ext_images {f g : Motion ℝ} (hf : f.IsRigid) (hg : g.IsRigid) (hx : f.ex = g.ex)
    (hy : f.ey = g.ey) (hshift : f.shift = g.shift) : f = g := by
  have hz : f.ez = g.ez := by
    rw [hf.ez_eq, hg.ez_eq, hx, hy]
  cases f
  cases g
  simp_all

end Motion

namespace Wrist

/-! ### The product of three turns -/

/-- The turn about the first direction. -/
noncomputable def turnX (θ : ℝ) : Motion ℝ := Motion.rotation .unitX θ .zero

/-- The turn about the second direction. -/
noncomputable def turnY (θ : ℝ) : Motion ℝ := Motion.rotation .unitY θ .zero

/-- Turns about the first, the second and again the first direction. -/
noncomputable def euler (a b c : ℝ) : Motion ℝ := turnX a * turnY b * turnX c

theorem unitX_unit : (Vec.unitX : Vec ℝ).dot .unitX = 1 := by
  simp [Vec.unitX_eq, Vec.dot_eq]

theorem unitY_unit : (Vec.unitY : Vec ℝ).dot .unitY = 1 := by
  simp [Vec.unitY_eq, Vec.dot_eq]

theorem turnX_eq (θ : ℝ) :
    turnX θ =
      ⟨⟨1, 0, 0⟩, ⟨0, Real.cos θ, Real.sin θ⟩, ⟨0, -Real.sin θ, Real.cos θ⟩, ⟨0, 0, 0⟩⟩ := by
  rw [turnX, Motion.rotation, Vec.direction_unit unitX_unit]
  simp only [Vec.unitX_eq, Vec.zero_eq]
  ext <;> simp

theorem turnY_eq (θ : ℝ) :
    turnY θ =
      ⟨⟨Real.cos θ, 0, -Real.sin θ⟩, ⟨0, 1, 0⟩, ⟨Real.sin θ, 0, Real.cos θ⟩, ⟨0, 0, 0⟩⟩ := by
  rw [turnY, Motion.rotation, Vec.direction_unit unitY_unit]
  simp only [Vec.unitY_eq, Vec.zero_eq]
  ext <;> simp

theorem euler_isRigid (a b c : ℝ) : (euler a b c).IsRigid :=
  ((Motion.rotation_isRigid unitX_unit a _).mul (Motion.rotation_isRigid unitY_unit b _)).mul
    (Motion.rotation_isRigid unitX_unit c _)

theorem euler_eq (a b c : ℝ) :
    euler a b c =
      ⟨⟨Real.cos b, Real.sin a * Real.sin b, -(Real.cos a * Real.sin b)⟩,
       ⟨Real.sin b * Real.sin c, Real.cos a * Real.cos c - Real.sin a * Real.cos b * Real.sin c,
        Real.sin a * Real.cos c + Real.cos a * Real.cos b * Real.sin c⟩,
       ⟨Real.sin b * Real.cos c, -(Real.cos a * Real.sin c) - Real.sin a * Real.cos b * Real.cos c,
        -(Real.sin a * Real.sin c) + Real.cos a * Real.cos b * Real.cos c⟩,
       ⟨0, 0, 0⟩⟩ := by
  rw [euler, turnX_eq, turnX_eq, turnY_eq]
  show Motion.compose (Motion.compose _ _) _ = _
  ext <;> simp [Motion.compose, Motion.apply_eq] <;> ring

/-- Half a turn before and behind, and the opposite bend, make the same turn. -/
theorem euler_flip (a b c : ℝ) : euler (a + Real.pi) (-b) (c + Real.pi) = euler a b c := by
  rw [euler_eq, euler_eq]
  simp only [Real.cos_add_pi, Real.sin_add_pi, Real.cos_neg, Real.sin_neg]
  ext <;> simp

/-! ### Reading the angles off -/

variable {m : Motion ℝ}

/-- The sine of the bend of a turn. -/
noncomputable def sine (m : Motion ℝ) : ℝ := Real.sqrt (m.ey.x * m.ey.x + m.ez.x * m.ez.x)

theorem sine_nonneg (m : Motion ℝ) : 0 ≤ sine m := Real.sqrt_nonneg _

theorem sine_sq (m : Motion ℝ) : sine m * sine m = m.ey.x * m.ey.x + m.ez.x * m.ez.x :=
  Real.mul_self_sqrt (add_nonneg (mul_self_nonneg _) (mul_self_nonneg _))

/-- The first row of a rigid motion has length one. -/
theorem sine_sq_add (hm : m.IsRigid) : sine m * sine m + m.ex.x * m.ex.x = 1 := by
  have hrow := hm.inverse.ex_unit
  simp only [Vec.dot_eq, Motion.inverse, Motion.transposed] at hrow
  rw [sine_sq]
  linarith

/-- The sine is also the length of the first image across the first direction. -/
theorem sine_sq_eq_images (hm : m.IsRigid) :
    sine m * sine m = m.ex.y * m.ex.y + m.ex.z * m.ex.z := by
  have hx := hm.ex_unit
  have hs := sine_sq_add hm
  rw [Vec.dot_eq] at hx
  linarith

/-- Angles with the right sines and cosines compose to a turn with a bend. -/
theorem euler_of_bend (hm : m.IsRigid) (hshift : m.shift = .zero) (hs : sine m ≠ 0) {a b c : ℝ}
    (hb : Real.cos b = m.ex.x) (hb' : Real.sin b = sine m)
    (ha : sine m * Real.cos a = -m.ex.z) (ha' : sine m * Real.sin a = m.ex.y)
    (hc : sine m * Real.cos c = m.ez.x) (hc' : sine m * Real.sin c = m.ey.x) :
    euler a b c = m := by
  have hxy := hm.ex_ey
  have hz := congrArg Vec.x hm.ez_eq
  have himages := sine_sq_eq_images hm
  rw [Vec.dot_eq] at hxy
  rw [Vec.cross_x] at hz
  have hss : sine m * sine m ≠ 0 := mul_ne_zero hs hs
  refine (euler_isRigid a b c).ext_images hm ?_ ?_ ?_
  · rw [euler_eq]
    ext
    · exact hb
    · show Real.sin a * Real.sin b = _
      rw [hb', mul_comm, ha']
    · show -(Real.cos a * Real.sin b) = _
      rw [hb', mul_comm, ha, neg_neg]
  · rw [euler_eq]
    ext
    · show Real.sin b * Real.sin c = _
      rw [hb', hc']
    · show Real.cos a * Real.cos c - Real.sin a * Real.cos b * Real.sin c = _
      apply mul_left_cancel₀ hss
      rw [hb]
      calc sine m * sine m * (Real.cos a * Real.cos c - Real.sin a * m.ex.x * Real.sin c)
          = (sine m * Real.cos a) * (sine m * Real.cos c)
            - (sine m * Real.sin a) * m.ex.x * (sine m * Real.sin c) := by ring
        _ = -m.ex.z * m.ez.x - m.ex.y * m.ex.x * m.ey.x := by rw [ha, hc, ha', hc']
        _ = sine m * sine m * m.ey.y := by
          rw [himages]
          linear_combination -m.ex.z * hz - m.ex.y * hxy
    · show Real.sin a * Real.cos c + Real.cos a * Real.cos b * Real.sin c = _
      apply mul_left_cancel₀ hss
      rw [hb]
      calc sine m * sine m * (Real.sin a * Real.cos c + Real.cos a * m.ex.x * Real.sin c)
          = (sine m * Real.sin a) * (sine m * Real.cos c)
            + (sine m * Real.cos a) * m.ex.x * (sine m * Real.sin c) := by ring
        _ = m.ex.y * m.ez.x + -m.ex.z * m.ex.x * m.ey.x := by rw [ha, hc, ha', hc']
        _ = sine m * sine m * m.ey.z := by
          rw [himages]
          linear_combination m.ex.y * hz - m.ex.z * hxy
  · rw [euler_eq, hshift, Vec.zero_eq]

theorem decompose_of_bend (h : epsilon ≤ sine m) (reference : ℝ) :
    decompose m reference =
      (⟨Complex.arg ⟨-m.ex.z, m.ex.y⟩, Complex.arg ⟨m.ex.x, sine m⟩, Complex.arg ⟨m.ez.x, m.ey.x⟩⟩,
       ⟨Complex.arg ⟨-m.ex.z, m.ex.y⟩ + Real.pi, -Complex.arg ⟨m.ex.x, sine m⟩,
        Complex.arg ⟨m.ez.x, m.ey.x⟩ + Real.pi⟩) := by
  show (if sine m < epsilon then _ else _) = _
  rw [if_neg (not_lt.2 h)]
  rfl

theorem decompose_of_straight (h : sine m < epsilon) (reference : ℝ) :
    decompose m reference =
      if 0 < m.ex.x then
        (⟨reference, 0, Complex.arg ⟨m.ey.y, m.ey.z⟩ - reference⟩,
         ⟨reference, 0, Complex.arg ⟨m.ey.y, m.ey.z⟩ - reference⟩)
      else
        (⟨reference, Real.pi, reference - Complex.arg ⟨m.ey.y, m.ey.z⟩⟩,
         ⟨reference, -Real.pi, reference - Complex.arg ⟨m.ey.y, m.ey.z⟩⟩) := by
  show (if sine m < epsilon then _ else _) = _
  rw [if_pos h]
  simp only [Scalar.literal_zero]
  rfl

/-- Length and angle of a point give its coordinates back. -/
theorem polar_coordinates {x y r : ℝ} (hr : 0 ≤ r) (h : r * r = x * x + y * y) :
    r * Real.cos (Complex.arg ⟨x, y⟩) = x ∧ r * Real.sin (Complex.arg ⟨x, y⟩) = y := by
  have hnorm : ‖(⟨x, y⟩ : ℂ)‖ = r := by
    rw [Complex.norm_def, Complex.normSq_apply, ← h, Real.sqrt_mul_self hr]
  rw [← hnorm]
  exact ⟨Complex.norm_mul_cos_arg _, Complex.norm_mul_sin_arg _⟩

/-- The turn that a triple of angles composes to. -/
noncomputable def turnOf (w : WristAngles ℝ) : Motion ℝ := euler w.first w.second w.third

/-- With a bend, the angles that are read off compose to the turn. -/
theorem turnOf_decompose_of_bend (hm : m.IsRigid) (hshift : m.shift = .zero)
    (h : epsilon ≤ sine m) (reference : ℝ) :
    turnOf (decompose m reference).1 = m ∧ turnOf (decompose m reference).2 = m := by
  have hpos : 0 < sine m := lt_of_lt_of_le (by norm_num [epsilon]) h
  obtain ⟨ha, ha'⟩ := polar_coordinates (sine_nonneg m) (x := -m.ex.z) (y := m.ex.y)
    (by rw [sine_sq_eq_images hm]; ring)
  obtain ⟨hb, hb'⟩ := polar_coordinates zero_le_one (x := m.ex.x) (y := sine m)
    (by linarith [sine_sq_add hm])
  obtain ⟨hc, hc'⟩ := polar_coordinates (sine_nonneg m) (x := m.ez.x) (y := m.ey.x)
    (by rw [sine_sq]; ring)
  rw [one_mul] at hb hb'
  rw [decompose_of_bend h]
  simp only [turnOf]
  rw [euler_flip]
  exact ⟨euler_of_bend hm hshift hpos.ne' hb hb' ha ha' hc hc',
    euler_of_bend hm hshift hpos.ne' hb hb' ha ha' hc hc'⟩

/-- The images of a turn without a bend. -/
theorem images_of_straight (hm : m.IsRigid) (h : sine m = 0) :
    (m.ex = ⟨1, 0, 0⟩ ∨ m.ex = ⟨-1, 0, 0⟩)
      ∧ m.ey = ⟨0, Real.cos (Complex.arg ⟨m.ey.y, m.ey.z⟩),
        Real.sin (Complex.arg ⟨m.ey.y, m.ey.z⟩)⟩ := by
  have hfirst := sine_sq m
  have himages := sine_sq_eq_images hm
  have hone := sine_sq_add hm
  have hunit := hm.ey_unit
  rw [h, zero_mul, eq_comm, mul_self_add_mul_self_eq_zero] at hfirst himages
  rw [h, zero_mul, zero_add, mul_self_eq_one_iff] at hone
  obtain ⟨hyx, -⟩ := hfirst
  obtain ⟨hxy, hxz⟩ := himages
  rw [Vec.dot_eq, hyx] at hunit
  obtain ⟨hcos, hsin⟩ := polar_coordinates zero_le_one (x := m.ey.y) (y := m.ey.z)
    (by linarith)
  rw [one_mul] at hcos hsin
  refine ⟨hone.imp (fun hx => ?_) fun hx => ?_, ?_⟩
  · ext
    · exact hx
    · exact hxy
    · exact hxz
  · ext
    · exact hx
    · exact hxy
    · exact hxz
  · ext
    · exact hyx
    · exact hcos.symm
    · exact hsin.symm

/-- Without a bend, the sum of the outer angles is the turn. -/
theorem euler_of_forward (hm : m.IsRigid) (hshift : m.shift = .zero) (hx : m.ex = ⟨1, 0, 0⟩) {φ : ℝ}
    (hy : m.ey = ⟨0, Real.cos φ, Real.sin φ⟩) (a : ℝ) : euler a 0 (φ - a) = m := by
  have hsum : φ = a + (φ - a) := by ring
  have hcos := Real.cos_add a (φ - a)
  have hsin := Real.sin_add a (φ - a)
  rw [← hsum] at hcos hsin
  refine (euler_isRigid _ _ _).ext_images hm ?_ ?_ ?_
  · rw [euler_eq, hx]
    ext <;> simp
  · rw [euler_eq, hy]
    ext <;> simp [hcos, hsin]
  · rw [euler_eq, hshift, Vec.zero_eq]

/-- Bent by half a turn, the difference of the outer angles is the turn. -/
theorem euler_of_backward (hm : m.IsRigid) (hshift : m.shift = .zero) (hx : m.ex = ⟨-1, 0, 0⟩)
    {φ : ℝ} (hy : m.ey = ⟨0, Real.cos φ, Real.sin φ⟩) {b : ℝ} (hb : Real.cos b = -1)
    (hb' : Real.sin b = 0) (a : ℝ) : euler a b (a - φ) = m := by
  have hdiff : φ = a - (a - φ) := by ring
  have hcos := Real.cos_sub a (a - φ)
  have hsin := Real.sin_sub a (a - φ)
  rw [← hdiff] at hcos hsin
  refine (euler_isRigid _ _ _).ext_images hm ?_ ?_ ?_
  · rw [euler_eq, hx]
    ext <;> simp [hb, hb']
  · rw [euler_eq, hy]
    ext <;> simp [hb, hb', hcos, hsin, sub_eq_add_neg]
  · rw [euler_eq, hshift, Vec.zero_eq]

/-- Without a bend, the angles that are read off compose to the turn. -/
theorem turnOf_decompose_of_straight (hm : m.IsRigid) (hshift : m.shift = .zero)
    (h : sine m = 0) (reference : ℝ) :
    turnOf (decompose m reference).1 = m ∧ turnOf (decompose m reference).2 = m := by
  have hlt : sine m < epsilon := by
    rw [h]
    norm_num [epsilon]
  obtain ⟨hx, hy⟩ := images_of_straight hm h
  rw [decompose_of_straight hlt]
  rcases hx with hx | hx
  · have hpos : 0 < m.ex.x := by
      rw [hx]
      exact one_pos
    rw [if_pos hpos]
    exact ⟨euler_of_forward hm hshift hx hy reference, euler_of_forward hm hshift hx hy reference⟩
  · have hneg : ¬ 0 < m.ex.x := by
      rw [hx]
      norm_num
    rw [if_neg hneg]
    exact ⟨euler_of_backward hm hshift hx hy Real.cos_pi Real.sin_pi reference,
      euler_of_backward hm hshift hx hy (by simp) (by simp) reference⟩

/-- **Both triples of angles compose to the turn** that they are read off. -/
theorem turnOf_decompose (hm : m.IsRigid) (hshift : m.shift = .zero)
    (h : sine m = 0 ∨ epsilon ≤ sine m) (reference : ℝ) :
    turnOf (decompose m reference).1 = m ∧ turnOf (decompose m reference).2 = m :=
  h.elim (fun h => turnOf_decompose_of_straight hm hshift h reference)
    fun h => turnOf_decompose_of_bend hm hshift h reference

/-! ### There are no other triples -/

theorem sine_euler (a b c : ℝ) : sine (euler a b c) = |Real.sin b| := by
  rw [sine, euler_eq, ← Real.sqrt_sq_eq_abs]
  congr 1
  linear_combination Real.sin b ^ 2 * Real.sin_sq_add_cos_sq c

/-- A positive multiple of a heading has the angle of the heading. -/
theorem coe_arg_of_pos {s θ x y : ℝ} (hs : 0 < s) (hx : x = s * Real.cos θ)
    (hy : y = s * Real.sin θ) : ((Complex.arg ⟨x, y⟩ : ℝ) : Real.Angle) = θ := by
  have hz : (⟨x, y⟩ : ℂ) = s * heading θ := by
    apply Complex.ext
    · rw [Complex.re_ofReal_mul, heading_re, hx]
    · rw [Complex.im_ofReal_mul, heading_im, hy]
  rw [hz, Complex.arg_real_mul _ hs, coe_arg_heading]

/-- A bend with a positive sine is read off as it is. -/
theorem decompose_euler_of_pos {a b c : ℝ} (h : epsilon ≤ Real.sin b) (reference : ℝ) :
    let w := (decompose (euler a b c) reference).1
    (a : Real.Angle) = w.first ∧ (b : Real.Angle) = w.second ∧ (c : Real.Angle) = w.third := by
  have hpos : 0 < Real.sin b := lt_of_lt_of_le (by norm_num [epsilon]) h
  have hsine : sine (euler a b c) = Real.sin b := by
    rw [sine_euler, abs_of_pos hpos]
  intro w
  have hw : w = (decompose (euler a b c) reference).1 := rfl
  rw [hw, decompose_of_bend (by rwa [hsine]), hsine, euler_eq]
  refine ⟨?_, ?_, ?_⟩
  · exact (coe_arg_of_pos hpos (by ring) (by ring)).symm
  · exact (coe_arg_of_pos one_pos (one_mul _).symm (one_mul _).symm).symm
  · exact (coe_arg_of_pos hpos rfl rfl).symm

/-- A bend with a negative sine is read off by the opposite bend, between half turns. -/
theorem decompose_euler_of_neg {a b c : ℝ} (hneg : Real.sin b < 0) (h : epsilon ≤ -Real.sin b)
    (reference : ℝ) :
    let w := (decompose (euler a b c) reference).2
    (a : Real.Angle) = w.first ∧ (b : Real.Angle) = w.second ∧ (c : Real.Angle) = w.third := by
  have hpos : 0 < -Real.sin b := neg_pos.2 hneg
  have hsine : sine (euler a b c) = -Real.sin b := by
    rw [sine_euler, abs_of_neg hneg]
  intro w
  have hw : w = (decompose (euler a b c) reference).2 := rfl
  rw [hw, decompose_of_bend (by rwa [hsine]), hsine, euler_eq]
  have hback {x : ℝ} {θ : Real.Angle} (hx : θ = (x + Real.pi : ℝ)) :
      (x : Real.Angle) = θ + Real.pi := by
    rw [hx, Real.Angle.coe_add, add_assoc, Real.Angle.coe_pi_add_coe_pi, add_zero]
  refine ⟨?_, ?_, ?_⟩
  · rw [Real.Angle.coe_add]
    refine hback (coe_arg_of_pos hpos ?_ ?_)
    · rw [Real.cos_add_pi]
      ring
    · rw [Real.sin_add_pi]
      ring
  · have hbend : ((Complex.arg ⟨Real.cos b, -Real.sin b⟩ : ℝ) : Real.Angle) = (-b : ℝ) :=
      coe_arg_of_pos one_pos (by rw [Real.cos_neg, one_mul]) (by rw [Real.sin_neg, one_mul])
    rw [Real.Angle.coe_neg, hbend, Real.Angle.coe_neg, neg_neg]
  · rw [Real.Angle.coe_add]
    refine hback (coe_arg_of_pos hpos ?_ ?_)
    · rw [Real.cos_add_pi]
      ring
    · rw [Real.sin_add_pi]
      ring

/-- **There are no other triples** for a turn with a bend. -/
theorem decompose_euler {a b c : ℝ} (h : epsilon ≤ |Real.sin b|) (reference : ℝ) :
    let w := if Real.sin b < 0 then (decompose (euler a b c) reference).2
      else (decompose (euler a b c) reference).1
    (a : Real.Angle) = w.first ∧ (b : Real.Angle) = w.second ∧ (c : Real.Angle) = w.third := by
  intro w
  by_cases hneg : Real.sin b < 0
  · have hw : w = (decompose (euler a b c) reference).2 := if_pos hneg
    rw [abs_of_neg hneg] at h
    rw [hw]
    exact decompose_euler_of_neg hneg h reference
  · have hw : w = (decompose (euler a b c) reference).1 := if_neg hneg
    rw [abs_of_nonneg (not_lt.1 hneg)] at h
    rw [hw]
    exact decompose_euler_of_pos h reference

end Wrist

end SixAxis
