import SixAxis.Arm.Elbow
import SixAxis.Proofs.RealScalar

/-!
# The two rods in exact arithmetic

In the arm plane the upper arm and the forearm are a chain of two rods, and a vector of the plane is
a complex number.  Turning joints two and three by `θ` and `φ` brings the wrist centre to
`heading θ * (u + heading φ * f)`.

* `ArmPlane.turnsOfArm_reach` — **both computed pairs of angles reach**, whenever the rods are long
  enough and not too long;
* `ArmPlane.turnsOfArm_of_reach` — **there are no other pairs**: two angles that reach are one of
  the computed pairs, and the side of the upper arm tells which.
-/

namespace SixAxis

namespace Flat

/-- A vector of the plane as a complex number. -/
noncomputable def toComplex (a : Flat ℝ) : ℂ := ⟨a.u, a.v⟩

theorem toComplex_sub (a b : Flat ℝ) : (a - b).toComplex = a.toComplex - b.toComplex := by
  apply Complex.ext <;> rfl

theorem length_eq_norm (a : Flat ℝ) : a.length = ‖a.toComplex‖ := by
  rw [Complex.norm_eq_sqrt_sq_add_sq, sq, sq]
  rfl

theorem length_nonneg (a : Flat ℝ) : 0 ≤ a.length := by
  rw [length_eq_norm]
  exact norm_nonneg _

theorem length_pos {a : Flat ℝ} (h : a.length ≠ 0) : 0 < a.length :=
  lt_of_le_of_ne (length_nonneg a) (Ne.symm h)

theorem toComplex_ne_zero {a : Flat ℝ} (h : a.length ≠ 0) : a.toComplex ≠ 0 := by
  rwa [length_eq_norm, norm_ne_zero_iff] at h

theorem angle_eq_arg (a : Flat ℝ) : a.angle = a.toComplex.arg := rfl

theorem norm_length_mul_heading (a : Flat ℝ) (θ : ℝ) : ‖(a.length : ℂ) * heading θ‖ = a.length := by
  rw [norm_mul, norm_heading, mul_one, Complex.norm_real, Real.norm_of_nonneg (length_nonneg a)]

theorem toComplex_polar (r θ : ℝ) : (polar r θ).toComplex = r * heading θ := by
  apply Complex.ext
  · rw [Complex.re_ofReal_mul, heading_re]
    rfl
  · rw [Complex.im_ofReal_mul, heading_im]
    rfl

/-- The vector product of two vectors of the plane. -/
noncomputable def cross (a b : Flat ℝ) : ℝ := a.u * b.v - a.v * b.u

end Flat

/-! ### The law of cosines -/

theorem norm_sub_sq_eq (w u : ℂ) (θ : ℝ) (hu : u = ‖u‖ * heading (w.arg + θ)) :
    ‖w - u‖ ^ 2 = ‖w‖ ^ 2 + ‖u‖ ^ 2 - 2 * ‖w‖ * ‖u‖ * Real.cos θ := by
  have hw := norm_mul_heading_arg w
  have hdiff : w - u = heading w.arg * (‖w‖ - ‖u‖ * heading θ) := by
    conv_lhs => rw [hu, ← hw, heading_add]
    rw [norm_mul_heading_arg]
    linear_combination -hw
  rw [hdiff, norm_mul, norm_heading, one_mul, ← Complex.normSq_eq_norm_sq, Complex.normSq_apply]
  simp only [Complex.sub_re, Complex.sub_im, Complex.ofReal_re, Complex.ofReal_im,
    Complex.re_ofReal_mul, Complex.im_ofReal_mul, heading_re, heading_im]
  linear_combination ‖u‖ ^ 2 * Real.sin_sq_add_cos_sq θ

namespace ArmPlane

variable {p : ArmPlane ℝ}

theorem shoulderCosine_of_reach {reach : ℝ} (h : epsilon ≤ reach) :
    p.shoulderCosine reach =
      (p.upperArm.length * p.upperArm.length + reach * reach - p.forearm.length * p.forearm.length)
        / (2 * p.upperArm.length * reach) := by
  rw [shoulderCosine, if_neg (not_lt.2 h), Scalar.literal_two]

theorem epsilon_pos : (0 : ℝ) < epsilon := by
  norm_num [epsilon]

/-- Rods that are long enough and not too long give the cosine of an angle. -/
theorem abs_shoulderCosine_le {reach : ℝ} (hupper : p.upperArm.length ≠ 0)
    (h : epsilon ≤ reach) (hfar : reach ≤ p.upperArm.length + p.forearm.length)
    (hnear : |p.upperArm.length - p.forearm.length| ≤ reach) : |p.shoulderCosine reach| ≤ 1 := by
  have hpos := Flat.length_pos hupper
  have hreach : 0 < reach := epsilon_pos.trans_le h
  have hden : 0 < 2 * p.upperArm.length * reach := by positivity
  obtain ⟨hnear₁, hnear₂⟩ := abs_le.1 hnear
  rw [shoulderCosine_of_reach h, abs_le]
  constructor
  · rw [le_div_iff₀ hden]
    nlinarith
  · rw [div_le_iff₀ hden]
    nlinarith

/-- Only rods that are long enough and not too long give the cosine of an angle. -/
theorem rods_of_abs_shoulderCosine_le {reach : ℝ} (hupper : p.upperArm.length ≠ 0)
    (h : epsilon ≤ reach) (hcosine : |p.shoulderCosine reach| ≤ 1) :
    |p.upperArm.length - p.forearm.length| ≤ reach
      ∧ reach ≤ p.upperArm.length + p.forearm.length := by
  have hpos := Flat.length_pos hupper
  have hfore := Flat.length_nonneg p.forearm
  have hreach : 0 < reach := epsilon_pos.trans_le h
  have hden : 0 < 2 * p.upperArm.length * reach := by positivity
  rw [shoulderCosine_of_reach h, abs_le, le_div_iff₀ hden, div_le_iff₀ hden] at hcosine
  obtain ⟨hlow, hhigh⟩ := hcosine
  have hsum : p.forearm.length ^ 2 ≤ (p.upperArm.length + reach) ^ 2 := by
    linarith
  have hdiff : (p.upperArm.length - reach) ^ 2 ≤ p.forearm.length ^ 2 := by
    linarith
  have hnear := abs_le_of_sq_le_sq' hsum (by positivity)
  have hfar := abs_le_of_sq_le_sq' hdiff hfore
  exact ⟨abs_le.2 ⟨by linarith [hnear.2], by linarith [hfar.2]⟩, by linarith [hfar.1]⟩

theorem cos_shoulderAngle {c : ℝ} (h : |c| ≤ 1) : Real.cos (shoulderAngle c) = c := by
  obtain ⟨hlow, hhigh⟩ := abs_le.1 h
  rw [shoulderAngle, Scalar.literal_one, Scalar.smaller_real, Scalar.larger_real,
    max_eq_right hlow, min_eq_right hhigh]
  exact Real.cos_arccos hlow hhigh

/-! ### Both pairs of angles reach -/

/-- Turning the upper arm by the computed angle puts the elbow where it was computed. -/
theorem heading_second (w : Flat ℝ) (beta sign : ℝ) :
    heading (p.turnsOfArm w beta sign).1 * p.upperArm.toComplex =
      p.upperArm.length * heading (w.toComplex.arg + sign * beta) := by
  have hu := norm_mul_heading_arg p.upperArm.toComplex
  have hsum : w.toComplex.arg + sign * beta =
      (p.turnsOfArm w beta sign).1 + p.upperArm.toComplex.arg := by
    simp only [turnsOfArm, Flat.angle_eq_arg]
    ring
  rw [hsum, heading_add, Flat.length_eq_norm]
  linear_combination -heading (p.turnsOfArm w beta sign).1 * hu

/-- If the forearm has the length from the elbow to the wrist centre, the computed angles reach. -/
theorem turnsOfArm_reach_of_norm (w : Flat ℝ) (beta sign : ℝ)
    (h : ‖w.toComplex - p.upperArm.length * heading (w.toComplex.arg + sign * beta)‖ =
      p.forearm.length) :
    heading (p.turnsOfArm w beta sign).1
        * (p.upperArm.toComplex + heading (p.turnsOfArm w beta sign).2 * p.forearm.toComplex)
      = w.toComplex := by
  set rest := w.toComplex - p.upperArm.length * heading (w.toComplex.arg + sign * beta) with hrest
  have hsum : rest.arg =
      (p.turnsOfArm w beta sign).1 + ((p.turnsOfArm w beta sign).2 + p.forearm.toComplex.arg) := by
    simp only [turnsOfArm, Flat.angle_eq_arg, Flat.toComplex_sub, Flat.toComplex_polar, ← hrest]
    ring
  have hfore := norm_mul_heading_arg p.forearm.toComplex
  have hlast := norm_mul_heading_arg rest
  rw [h, Flat.length_eq_norm, hsum, heading_add, heading_add] at hlast
  have helbow := heading_second (p := p) w beta sign
  rw [mul_add, helbow]
  linear_combination hlast
    - heading (p.turnsOfArm w beta sign).1 * heading (p.turnsOfArm w beta sign).2 * hfore + hrest

/-- **Both computed pairs of angles reach.** -/
theorem turnsOfArm_reach (hupper : p.upperArm.length ≠ 0) {w : Flat ℝ}
    (hband : w.length = 0 ∨ epsilon ≤ w.length)
    (hnear : |p.upperArm.length - p.forearm.length| ≤ w.length)
    (hfar : w.length ≤ p.upperArm.length + p.forearm.length) {sign : ℝ}
    (hsign : sign = 1 ∨ sign = -1) :
    let t := p.turnsOfArm w (shoulderAngle (p.shoulderCosine w.length)) sign
    heading t.1 * (p.upperArm.toComplex + heading t.2 * p.forearm.toComplex) = w.toComplex := by
  intro t
  apply turnsOfArm_reach_of_norm
  set beta := shoulderAngle (p.shoulderCosine w.length)
  rcases hband with hzero | hband
  · -- the rods are equally long, and the forearm folds back onto the upper arm
    have hw : w.toComplex = 0 := by rwa [Flat.length_eq_norm, norm_eq_zero] at hzero
    rw [hzero, abs_le] at hnear
    rw [hw, zero_sub, norm_neg, Flat.norm_length_mul_heading]
    linarith [hnear.1, hnear.2]
  · have hcos : Real.cos (sign * beta) = p.shoulderCosine w.length := by
      rw [← cos_shoulderAngle (abs_shoulderCosine_le hupper hband hfar hnear)]
      rcases hsign with rfl | rfl
      · rw [one_mul]
      · rw [neg_one_mul, Real.cos_neg]
    set u : ℂ := p.upperArm.length * heading (w.toComplex.arg + sign * beta) with hu
    have hnorm : ‖u‖ = p.upperArm.length := Flat.norm_length_mul_heading _ _
    have hlaw := norm_sub_sq_eq w.toComplex u (sign * beta) (by rw [hnorm])
    have hreach : 0 < w.length := epsilon_pos.trans_le hband
    rw [hcos, hnorm, ← Flat.length_eq_norm, shoulderCosine_of_reach hband] at hlaw
    have hsq : ‖w.toComplex - u‖ ^ 2 = p.forearm.length ^ 2 := by
      rw [hlaw]
      field_simp
      ring
    exact (pow_left_inj₀ (norm_nonneg _) (Flat.length_nonneg _) two_ne_zero).1 hsq

/-! ### There are no other pairs -/

section Unique

variable {w elbow : Flat ℝ} {θ φ : ℝ}

/-- Rods that reach are long enough and not too long. -/
theorem reach_bounds
    (h : heading θ * (p.upperArm.toComplex + heading φ * p.forearm.toComplex) = w.toComplex) :
    |p.upperArm.length - p.forearm.length| ≤ w.length
      ∧ w.length ≤ p.upperArm.length + p.forearm.length := by
  have hfore : ‖heading φ * p.forearm.toComplex‖ = p.forearm.length := by
    rw [norm_heading_mul, Flat.length_eq_norm]
  have hw : w.length = ‖p.upperArm.toComplex + heading φ * p.forearm.toComplex‖ := by
    rw [Flat.length_eq_norm, ← h, norm_heading_mul]
  rw [hw, ← hfore, Flat.length_eq_norm]
  refine ⟨?_, norm_add_le _ _⟩
  have hsub := abs_norm_sub_norm_le p.upperArm.toComplex (-(heading φ * p.forearm.toComplex))
  rwa [norm_neg, sub_neg_eq_add] at hsub

/-- The vector product is the sine of the angle between. -/
theorem cross_eq_sin (a b : Flat ℝ) :
    a.cross b = -(a.length * b.length * Real.sin (a.toComplex.arg - b.toComplex.arg)) := by
  have hau := Complex.norm_mul_cos_arg a.toComplex
  have hav := Complex.norm_mul_sin_arg a.toComplex
  have hbu := Complex.norm_mul_cos_arg b.toComplex
  have hbv := Complex.norm_mul_sin_arg b.toComplex
  have hcross : a.cross b = a.toComplex.re * b.toComplex.im - a.toComplex.im * b.toComplex.re := rfl
  rw [hcross, ← hau, ← hav, ← hbu, ← hbv, Real.sin_sub, Flat.length_eq_norm, Flat.length_eq_norm]
  ring

/-- The angle at the shoulder is the computed one, up to its sign. -/
theorem cos_shoulder (hupper : p.upperArm.length ≠ 0) (hband : epsilon ≤ w.length)
    (he : elbow.toComplex = heading θ * p.upperArm.toComplex)
    (h : heading θ * (p.upperArm.toComplex + heading φ * p.forearm.toComplex) = w.toComplex) :
    Real.cos (elbow.toComplex.arg - w.toComplex.arg)
      = Real.cos (shoulderAngle (p.shoulderCosine w.length)) := by
  obtain ⟨hnear, hfar⟩ := reach_bounds h
  have hnorm : ‖elbow.toComplex‖ = p.upperArm.length := by
    rw [he, norm_heading_mul, Flat.length_eq_norm]
  have hrest : ‖w.toComplex - elbow.toComplex‖ = p.forearm.length := by
    rw [he, ← h, mul_add, add_sub_cancel_left, norm_heading_mul, norm_heading_mul,
      Flat.length_eq_norm]
  have hlaw := norm_sub_sq_eq w.toComplex elbow.toComplex
    (elbow.toComplex.arg - w.toComplex.arg) (by
      rw [add_sub_cancel, norm_mul_heading_arg])
  have hreach : 0 < w.length := epsilon_pos.trans_le hband
  rw [cos_shoulderAngle (abs_shoulderCosine_le hupper hband hfar hnear),
    shoulderCosine_of_reach hband]
  rw [hrest, hnorm, ← Flat.length_eq_norm] at hlaw
  field_simp
  linarith

/-- The side that the elbow is on tells the sign of the angle at the shoulder. -/
theorem coe_shoulder (hupper : p.upperArm.length ≠ 0) (hband : epsilon ≤ w.length)
    (he : elbow.toComplex = heading θ * p.upperArm.toComplex)
    (h : heading θ * (p.upperArm.toComplex + heading φ * p.forearm.toComplex) = w.toComplex) :
    ((elbow.toComplex.arg - w.toComplex.arg : ℝ) : Real.Angle) =
      ((if elbow.cross w < 0 then 1 else -1)
        * shoulderAngle (p.shoulderCosine w.length) : ℝ) := by
  have hcos := cos_shoulder hupper hband he h
  have hlength : elbow.length = p.upperArm.length := by
    rw [Flat.length_eq_norm, he, norm_heading_mul, Flat.length_eq_norm]
  have hpos : 0 < elbow.length * w.length := by
    rw [hlength]
    exact mul_pos (Flat.length_pos hupper) (epsilon_pos.trans_le hband)
  have hcross := cross_eq_sin elbow w
  set δ := elbow.toComplex.arg - w.toComplex.arg
  set β := shoulderAngle (p.shoulderCosine w.length) with hβ
  have hβ₀ : 0 ≤ Real.sin β := Real.sin_nonneg_of_nonneg_of_le_pi
    (Real.arccos_nonneg _) (Real.arccos_le_pi _)
  rcases Real.Angle.cos_eq_iff_coe_eq_or_eq_neg.1 hcos with heq | heq
  · have hsin : Real.sin δ = Real.sin β := by
      rw [← Real.Angle.sin_coe, heq, Real.Angle.sin_coe]
    by_cases hneg : elbow.cross w < 0
    · rw [if_pos hneg, one_mul, heq]
    · -- the sine is neither positive nor negative, so both signs say the same
      have hzero : Real.sin β = 0 := by
        have hle : Real.sin δ ≤ 0 := by
          by_contra hlt
          exact hneg (by rw [hcross]; nlinarith [not_le.1 hlt])
        linarith
      rw [if_neg hneg, neg_one_mul, heq, Real.Angle.coe_neg]
      have hstraight : Real.Angle.sin β = 0 := by rwa [Real.Angle.sin_coe]
      exact Real.Angle.eq_neg_self_iff.2 (Real.Angle.sin_eq_zero_iff.1 hstraight)
  · have hsin : Real.sin δ = -Real.sin β := by
      rw [← Real.Angle.sin_coe, heq, Real.Angle.sin_neg, Real.Angle.sin_coe]
    have hneg : ¬ elbow.cross w < 0 := by
      rw [hcross, hsin]
      nlinarith
    rw [if_neg hneg, neg_one_mul, heq, Real.Angle.coe_neg]

/-- **There are no other pairs**: angles that reach are those of the side that the elbow is on. -/
theorem turnsOfArm_of_reach (hupper : p.upperArm.length ≠ 0) (hfore : p.forearm.length ≠ 0)
    (hband : epsilon ≤ w.length) (he : elbow.toComplex = heading θ * p.upperArm.toComplex)
    (h : heading θ * (p.upperArm.toComplex + heading φ * p.forearm.toComplex) = w.toComplex) :
    let t := p.turnsOfArm w (shoulderAngle (p.shoulderCosine w.length))
      (if elbow.cross w < 0 then 1 else -1)
    (θ : Real.Angle) = t.1 ∧ (φ : Real.Angle) = t.2 := by
  intro t
  have hshoulder := coe_shoulder hupper hband he h
  set toElbow := w.toComplex.arg + (if elbow.cross w < 0 then 1 else -1)
    * shoulderAngle (p.shoulderCosine w.length) with htoElbow
  have helbow : (elbow.toComplex.arg : Real.Angle) = toElbow := by
    rw [htoElbow, Real.Angle.coe_add, ← hshoulder, Real.Angle.coe_sub]
    abel
  have hangle : (elbow.toComplex.arg : Real.Angle) = θ + p.upperArm.toComplex.arg := by
    rw [he, coe_arg_heading_mul θ (Flat.toComplex_ne_zero hupper)]
  have hfirst : (θ : Real.Angle) = t.1 := by
    have ht : t.1 = toElbow - p.upperArm.toComplex.arg := rfl
    rw [ht, Real.Angle.coe_sub, ← helbow, hangle]
    abel
  have hplace : (p.upperArm.length : ℂ) * heading toElbow = elbow.toComplex := by
    rw [← heading_congr helbow, Flat.length_eq_norm]
    have hn : ‖p.upperArm.toComplex‖ = ‖elbow.toComplex‖ := by
      rw [he, norm_heading_mul]
    rw [hn, norm_mul_heading_arg]
  have hrest : w.toComplex - elbow.toComplex = heading (θ + φ) * p.forearm.toComplex := by
    rw [he, ← h, heading_add]
    ring
  refine ⟨hfirst, ?_⟩
  have ht : t.2 = (w.toComplex - p.upperArm.length * heading toElbow).arg
      - p.forearm.toComplex.arg - t.1 := by
    rw [← Flat.toComplex_polar, ← Flat.toComplex_sub]
    rfl
  rw [ht, hplace, hrest, Real.Angle.coe_sub, Real.Angle.coe_sub,
    coe_arg_heading_mul _ (Flat.toComplex_ne_zero hfore), ← hfirst, Real.Angle.coe_add]
  abel

end Unique

end ArmPlane

end SixAxis
