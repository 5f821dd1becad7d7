import SixAxis.Proofs.InverseKinematics

/-!
# The two sides of the elbow in exact arithmetic

The wrist centre is brought to a point of the arm plane by one of two bends of the elbow.  Where the
point is in the ring that the rods reach, both bends bring it there; the elbow is on one side of the
line to the point for one of them and on the other side for the other one, and it is on the line for
both where the point is on the rim of the ring: there the arm is stretched, or folded.

* `ArmPlane.IsInRing` — the points that the rods reach, away from the shoulder;
* `ArmPlane.IsInRing.sin_shoulderTurn_eq_zero_iff` — the rods are in line on the rim only;
* `ArmPlane.cross_elbowAt` — **which side the elbow is on**;
* `ArmPlane.IsInRing.coe_elbowTurns_eq_iff` — **when both bends are the same**;
* `ArmPlane.isTakenBy_candidate` — the joint values that the solver makes of them;
* `ArmPlane.elbowTurns_solve` — all of it.
-/

namespace SixAxis

attribute [ext] Flat

namespace Flat

/-! ### Vectors of the plane -/

noncomputable instance : Add (Flat ℝ) := ⟨fun a b => ⟨a.u + b.u, a.v + b.v⟩⟩

/-- A vector of the plane turned by an angle. -/
noncomputable def rotated (a : Flat ℝ) (θ : ℝ) : Flat ℝ :=
  ⟨a.u * Real.cos θ - a.v * Real.sin θ, a.u * Real.sin θ + a.v * Real.cos θ⟩

theorem toComplex_injective {a b : Flat ℝ} (h : a.toComplex = b.toComplex) : a = b :=
  Flat.ext (congrArg Complex.re h) (congrArg Complex.im h)

theorem toComplex_add (a b : Flat ℝ) : (a + b).toComplex = a.toComplex + b.toComplex := by
  apply Complex.ext <;> rfl

theorem toComplex_rotated (a : Flat ℝ) (θ : ℝ) :
    (a.rotated θ).toComplex = heading θ * a.toComplex := by
  apply Complex.ext
  · rw [Complex.mul_re, heading_re, heading_im]
    show a.u * Real.cos θ - a.v * Real.sin θ = Real.cos θ * a.u - Real.sin θ * a.v
    ring
  · rw [Complex.mul_im, heading_re, heading_im]
    show a.u * Real.sin θ + a.v * Real.cos θ = Real.cos θ * a.v + Real.sin θ * a.u
    ring

end Flat

namespace ArmPlane

variable {p : ArmPlane ℝ} {w : Flat ℝ}

/-! ### The ring -/

/-- The points that the rods reach, away from the shoulder: not too far and not too near. -/
structure IsInRing (p : ArmPlane ℝ) (w : Flat ℝ) : Prop where
  upperArm_ne : p.upperArm.length ≠ 0
  away : epsilon ≤ w.length
  near : |p.upperArm.length - p.forearm.length| ≤ w.length
  far : w.length ≤ p.upperArm.length + p.forearm.length

/-- The rim of the ring: the arm is stretched, or folded. -/
def IsOnRim (p : ArmPlane ℝ) (w : Flat ℝ) : Prop :=
  w.length = p.upperArm.length + p.forearm.length
    ∨ w.length = |p.upperArm.length - p.forearm.length|

/-- The angle at the shoulder between the upper arm and the way to a point. -/
noncomputable def shoulderTurn (p : ArmPlane ℝ) (w : Flat ℝ) : ℝ :=
  shoulderAngle (p.shoulderCosine w.length)

theorem IsInRing.reach_pos (h : p.IsInRing w) : 0 < w.length := epsilon_pos.trans_le h.away

theorem IsInRing.abs_cosine_le (h : p.IsInRing w) : |p.shoulderCosine w.length| ≤ 1 :=
  abs_shoulderCosine_le h.upperArm_ne h.away h.far h.near

theorem IsInRing.divisor_ne (h : p.IsInRing w) : 2 * p.upperArm.length * w.length ≠ 0 :=
  mul_ne_zero (mul_ne_zero two_ne_zero h.upperArm_ne) h.reach_pos.ne'

/-- The law of cosines. -/
theorem IsInRing.cos_shoulderTurn (h : p.IsInRing w) :
    2 * p.upperArm.length * w.length * Real.cos (p.shoulderTurn w) =
      p.upperArm.length ^ 2 + w.length ^ 2 - p.forearm.length ^ 2 := by
  rw [shoulderTurn, cos_shoulderAngle h.abs_cosine_le, shoulderCosine_of_reach h.away,
    mul_div_cancel₀ _ h.divisor_ne]
  ring

/-- The square of twice the area between the rods, by their lengths. -/
theorem IsInRing.area_sq (h : p.IsInRing w) :
    (2 * p.upperArm.length * w.length * Real.sin (p.shoulderTurn w)) ^ 2 =
      ((p.upperArm.length + p.forearm.length) ^ 2 - w.length ^ 2)
        * (w.length ^ 2 - (p.upperArm.length - p.forearm.length) ^ 2) := by
  have hcos := h.cos_shoulderTurn
  have hone := Real.sin_sq_add_cos_sq (p.shoulderTurn w)
  linear_combination (2 * p.upperArm.length * w.length) ^ 2 * hone
    - (2 * p.upperArm.length * w.length * Real.cos (p.shoulderTurn w) + p.upperArm.length ^ 2
      + w.length ^ 2 - p.forearm.length ^ 2) * hcos

theorem sin_shoulderTurn_nonneg (p : ArmPlane ℝ) (w : Flat ℝ) :
    0 ≤ Real.sin (p.shoulderTurn w) :=
  Real.sin_nonneg_of_nonneg_of_le_pi (Real.arccos_nonneg _) (Real.arccos_le_pi _)

/-- The rods are in line on the rim of the ring only. -/
theorem IsInRing.sin_shoulderTurn_eq_zero_iff (h : p.IsInRing w) :
    Real.sin (p.shoulderTurn w) = 0 ↔ p.IsOnRim w := by
  have hreach := h.reach_pos.le
  have hsum : 0 ≤ p.upperArm.length + p.forearm.length := hreach.trans h.far
  have hzero : Real.sin (p.shoulderTurn w) = 0 ↔
      (2 * p.upperArm.length * w.length * Real.sin (p.shoulderTurn w)) ^ 2 = 0 := by
    rw [pow_eq_zero_iff two_ne_zero, mul_eq_zero, or_iff_right h.divisor_ne]
  have hstretched : (p.upperArm.length + p.forearm.length) ^ 2 - w.length ^ 2 = 0 ↔
      w.length = p.upperArm.length + p.forearm.length := by
    rw [sub_eq_zero, sq_eq_sq₀ hsum hreach, eq_comm]
  have hfolded : w.length ^ 2 - (p.upperArm.length - p.forearm.length) ^ 2 = 0 ↔
      w.length = |p.upperArm.length - p.forearm.length| := by
    rw [sub_eq_zero, ← sq_abs (p.upperArm.length - p.forearm.length),
      sq_eq_sq₀ hreach (abs_nonneg _)]
  rw [hzero, h.area_sq, mul_eq_zero, hstretched, hfolded]
  rfl

/-! ### The elbow -/

/-- The angles of joints two and three for a bend of the elbow. -/
noncomputable def elbowTurns (p : ArmPlane ℝ) (w : Flat ℝ) (below : Bool) : ℝ × ℝ :=
  p.turnsOfArm w (p.shoulderTurn w) (if below then 1 else -1)

/-- Where the elbow is after joint two has turned. -/
noncomputable def elbowAt (p : ArmPlane ℝ) (w : Flat ℝ) (below : Bool) : Flat ℝ :=
  p.upperArm.rotated (p.elbowTurns w below).1

theorem toComplex_elbowAt (p : ArmPlane ℝ) (w : Flat ℝ) (below : Bool) :
    (p.elbowAt w below).toComplex =
      p.upperArm.length
        * heading (w.toComplex.arg + (if below then 1 else -1) * p.shoulderTurn w) := by
  rw [elbowAt, Flat.toComplex_rotated]
  exact heading_second w _ _

/-- Joint three starts from the elbow. -/
theorem elbowTurns_third (p : ArmPlane ℝ) (w : Flat ℝ) (below : Bool) :
    (p.elbowTurns w below).2 =
      (w.toComplex - (p.elbowAt w below).toComplex).arg - p.forearm.toComplex.arg
        - (p.elbowTurns w below).1 := by
  rw [toComplex_elbowAt, ← Flat.toComplex_polar, ← Flat.toComplex_sub]
  rfl

/-- **Which side the elbow is on**: the area between the rods, with the sign of the bend. -/
theorem cross_elbowAt (p : ArmPlane ℝ) (w : Flat ℝ) (below : Bool) :
    (p.elbowAt w below).cross w =
      (if below then -1 else 1)
        * (p.upperArm.length * w.length * Real.sin (p.shoulderTurn w)) := by
  have helbow := toComplex_elbowAt p w below
  set δ := (if below then 1 else -1) * p.shoulderTurn w with hδ
  set α := w.toComplex.arg with hα
  have hu : (p.elbowAt w below).u = p.upperArm.length * Real.cos (α + δ) := by
    have hre := congrArg Complex.re helbow
    rwa [Complex.re_ofReal_mul, heading_re] at hre
  have hv : (p.elbowAt w below).v = p.upperArm.length * Real.sin (α + δ) := by
    have him := congrArg Complex.im helbow
    rwa [Complex.im_ofReal_mul, heading_im] at him
  have hwu : w.u = w.length * Real.cos α := by
    rw [Flat.length_eq_norm, hα, Complex.norm_mul_cos_arg]
    rfl
  have hwv : w.v = w.length * Real.sin α := by
    rw [Flat.length_eq_norm, hα, Complex.norm_mul_sin_arg]
    rfl
  have hdiff : Real.sin α * Real.cos (α + δ) - Real.cos α * Real.sin (α + δ) = -Real.sin δ := by
    rw [← Real.sin_sub, ← Real.sin_neg]
    congr 1
    ring
  have hsign : Real.sin δ = (if below then 1 else -1) * Real.sin (p.shoulderTurn w) := by
    rw [hδ]
    cases below <;> simp
  have harea : (p.elbowAt w below).cross w = -(p.upperArm.length * w.length * Real.sin δ) := by
    rw [Flat.cross, hu, hv, hwu, hwv]
    linear_combination p.upperArm.length * w.length * hdiff
  rw [harea, hsign]
  cases below <;> simp

/-- The elbow is on the line to a point on the rim only. -/
theorem IsInRing.cross_elbowAt_eq_zero_iff (h : p.IsInRing w) (below : Bool) :
    (p.elbowAt w below).cross w = 0 ↔ p.IsOnRim w := by
  have hsign : (if below then (-1 : ℝ) else 1) ≠ 0 := by
    cases below <;> norm_num
  rw [cross_elbowAt, ← h.sin_shoulderTurn_eq_zero_iff, mul_eq_zero, or_iff_right hsign, mul_eq_zero,
    or_iff_right (mul_ne_zero h.upperArm_ne h.reach_pos.ne')]

/-- Off the rim the elbow is on the side of the bend. -/
theorem IsInRing.cross_elbowAt_neg_iff (h : p.IsInRing w) (hrim : ¬ p.IsOnRim w) (below : Bool) :
    (p.elbowAt w below).cross w < 0 ↔ below = true := by
  have hsine : 0 < Real.sin (p.shoulderTurn w) :=
    lt_of_le_of_ne (sin_shoulderTurn_nonneg p w)
      (Ne.symm fun hzero => hrim (h.sin_shoulderTurn_eq_zero_iff.1 hzero))
  have harea : 0 < p.upperArm.length * w.length * Real.sin (p.shoulderTurn w) :=
    mul_pos (mul_pos (Flat.length_pos h.upperArm_ne) h.reach_pos) hsine
  rw [cross_elbowAt]
  cases below with
  | false => simpa using harea.le
  | true => simpa using harea

/-! ### When both bends are the same -/

/-- On the rim both bends turn joint two to the same position. -/
theorem coe_second_of_onRim (h : p.IsInRing w) (hrim : p.IsOnRim w) :
    ((p.elbowTurns w true).1 : Real.Angle) = (p.elbowTurns w false).1 := by
  have hsin : Real.Angle.sin (p.shoulderTurn w) = 0 := by
    rw [Real.Angle.sin_coe]
    exact h.sin_shoulderTurn_eq_zero_iff.2 hrim
  -- an upper arm that is folded onto a longer forearm is turned by `π` or by `-π`
  have hopposite : (p.shoulderTurn w : Real.Angle) = -p.shoulderTurn w :=
    Real.Angle.eq_neg_self_iff.2 (Real.Angle.sin_eq_zero_iff.1 hsin)
  have hsecond (below : Bool) : ((p.elbowTurns w below).1 : Real.Angle) =
      w.toComplex.arg + ((if below then 1 else -1) * p.shoulderTurn w : ℝ)
        - p.upperArm.toComplex.arg := by
    rw [← Real.Angle.coe_add, ← Real.Angle.coe_sub]
    rfl
  rw [hsecond, hsecond, if_pos rfl, if_neg Bool.false_ne_true, one_mul, neg_one_mul,
    Real.Angle.coe_neg, ← hopposite]

theorem elbowAt_congr {a b : Bool}
    (h : ((p.elbowTurns w a).1 : Real.Angle) = (p.elbowTurns w b).1) :
    p.elbowAt w a = p.elbowAt w b := by
  apply Flat.toComplex_injective
  rw [elbowAt, elbowAt, Flat.toComplex_rotated, Flat.toComplex_rotated, heading_congr h]

/-- The elbow is at the same place for both bends on the rim only. -/
theorem IsInRing.elbowAt_eq_iff (h : p.IsInRing w) :
    p.elbowAt w true = p.elbowAt w false ↔ p.IsOnRim w := by
  constructor
  · intro heq
    rw [← h.cross_elbowAt_eq_zero_iff true]
    have htrue := cross_elbowAt p w true
    have hfalse := cross_elbowAt p w false
    rw [← heq] at hfalse
    simp only [if_true, Bool.false_eq_true, if_false] at htrue hfalse
    linarith
  · exact fun hrim => elbowAt_congr (coe_second_of_onRim h hrim)

/-- **When both bends are the same**, up to whole turns: on the rim only. -/
theorem IsInRing.coe_elbowTurns_eq_iff (h : p.IsInRing w) :
    ((p.elbowTurns w true).1 : Real.Angle) = (p.elbowTurns w false).1
      ∧ ((p.elbowTurns w true).2 : Real.Angle) = (p.elbowTurns w false).2 ↔ p.IsOnRim w := by
  constructor
  · rintro ⟨hsecond, -⟩
    exact h.elbowAt_eq_iff.1 (elbowAt_congr hsecond)
  · intro hrim
    have hsecond := coe_second_of_onRim h hrim
    refine ⟨hsecond, ?_⟩
    rw [elbowTurns_third, elbowTurns_third, elbowAt_congr hsecond, Real.Angle.coe_sub, hsecond,
      ← Real.Angle.coe_sub]

/-! ### The arm -/

/-- Both bends bring the wrist centre to the point. -/
theorem IsInRing.rotated_elbowTurns (h : p.IsInRing w) (below : Bool) :
    p.upperArm.rotated (p.elbowTurns w below).1
      + p.forearm.rotated ((p.elbowTurns w below).1 + (p.elbowTurns w below).2) = w := by
  have hsign : (if below then (1 : ℝ) else -1) = 1 ∨ (if below then (1 : ℝ) else -1) = -1 := by
    cases below <;> simp
  have hreach := turnsOfArm_reach h.upperArm_ne (Or.inr h.away) h.near h.far hsign
  apply Flat.toComplex_injective
  rw [Flat.toComplex_add, Flat.toComplex_rotated, Flat.toComplex_rotated, heading_add, mul_assoc,
    ← mul_add]
  exact hreach

/-- The divisor of the cosine is not zero, and the check before a target is solved says so. -/
theorem IsInRing.isDegenerate_eq_false (h : p.IsInRing w) : p.isDegenerate w.length = false := by
  have hbeq : (2.0 * p.upperArm.length * w.length == 0.0) = false := by
    simpa using h.divisor_ne
  rw [isDegenerate, hbeq, Bool.and_false]

/-- The cosine is in range already, so it is not moved there. -/
theorem IsInRing.shoulderTurn_eq (h : p.IsInRing w) :
    p.shoulderTurn w = Real.arccos (p.shoulderCosine w.length) := by
  obtain ⟨hlow, hhigh⟩ := abs_le.1 h.abs_cosine_le
  rw [shoulderTurn, shoulderAngle, Scalar.literal_one, Scalar.smaller_real, Scalar.larger_real,
    max_eq_right hlow, min_eq_right hhigh]
  rfl

/-! ### The candidates -/

/-- The second choice of a configuration is the second bit of its number. -/
theorem testBit_configuration (behind below negative : Bool) :
    (configuration behind below negative).val.testBit 1 = below := by
  revert behind below negative
  decide

/-- The candidates that the solver makes of the two bends. -/
structure IsTakenBy (p : ArmPlane ℝ) (w : Flat ℝ) (candidate : Bool → Candidate ℝ) : Prop where
  bit : ∀ below, (candidate below).configuration.val.testBit 1 = below
  second : ∀ below,
    (Robot.angle (candidate below).joints Joint.second : Real.Angle) = (p.elbowTurns w below).1
  third : ∀ below,
    (Robot.angle (candidate below).joints Joint.third : Real.Angle) = (p.elbowTurns w below).2
  /-- The joint values of both candidates are the same on the rim only. -/
  same_iff : ((candidate true).joints.get Joint.second = (candidate false).joints.get Joint.second
    ∧ (candidate true).joints.get Joint.third = (candidate false).joints.get Joint.third) ↔
      p.IsOnRim w

/-- The candidates of both bends, for a point in the ring. -/
theorem isTakenBy_candidate (r : Robot ℝ) {reference : RobotJoints ℝ} {target : Frame ℝ}
    {behind : Bool} (h : (ofRobot r).IsInRing (r.reached reference target behind))
    (negative : Bool) :
    (ofRobot r).IsTakenBy (r.reached reference target behind)
      fun below => r.candidate reference target behind below negative where
  bit below := by
    rw [Robot.candidate_eq]
    exact testBit_configuration behind below negative
  second below := Robot.coe_angle_candidate r reference target behind below negative Joint.second
  third below := Robot.coe_angle_candidate r reference target behind below negative Joint.third
  same_iff := by
    simp only [Robot.candidate_eq, Candidate.ofRadians_get]
    rw [fitAngle_degrees_eq_iff, fitAngle_degrees_eq_iff]
    exact h.coe_elbowTurns_eq_iff

/-! ### All of it -/

/-- A point of the ring brought under the wrist centre by both bends of the elbow. -/
structure IsSolved (p : ArmPlane ℝ) (w : Flat ℝ) : Prop where
  divisor_ne : 2 * p.upperArm.length * w.length ≠ 0
  checked : p.isDegenerate w.length = false
  cosine_mem : p.shoulderCosine w.length ∈ Set.Icc (-1) 1
  shoulder_eq : p.shoulderTurn w = Real.arccos (p.shoulderCosine w.length)
  /-- The rods reach. -/
  reach : ∀ below, p.upperArm.rotated (p.elbowTurns w below).1
    + p.forearm.rotated ((p.elbowTurns w below).1 + (p.elbowTurns w below).2) = w
  /-- Off the rim the elbow is on the side that the second bit of the configuration says, -/
  side : ¬ p.IsOnRim w → ∀ behind below negative,
    if (configuration behind below negative).val.testBit 1 = true
      then (p.elbowAt w below).cross w < 0 else 0 < (p.elbowAt w below).cross w
  /-- and on the rim it is on the line to the point. -/
  line_iff : ∀ below, (p.elbowAt w below).cross w = 0 ↔ p.IsOnRim w
  elbow_iff : p.elbowAt w true = p.elbowAt w false ↔ p.IsOnRim w
  turns_iff : ((p.elbowTurns w true).1 : Real.Angle) = (p.elbowTurns w false).1
    ∧ ((p.elbowTurns w true).2 : Real.Angle) = (p.elbowTurns w false).2 ↔ p.IsOnRim w
  /-- The candidates of a robot with this arm plane, for a target that needs this point. -/
  candidates : ∀ (r : Robot ℝ) reference target behind negative, ArmPlane.ofRobot r = p →
    r.reached reference target behind = w →
      p.IsTakenBy w fun below => r.candidate reference target behind below negative

/-- **Both bends of the elbow solve the arm**, for every point of the ring and its rim. -/
theorem elbowTurns_solve (h : p.IsInRing w) : p.IsSolved w := by
  constructor
  case divisor_ne => exact h.divisor_ne
  case checked => exact h.isDegenerate_eq_false
  case cosine_mem => exact abs_le.1 h.abs_cosine_le
  case shoulder_eq => exact h.shoulderTurn_eq
  case reach => exact h.rotated_elbowTurns
  case side =>
    intro hrim behind below negative
    have hneg := h.cross_elbowAt_neg_iff hrim below
    have hne : (p.elbowAt w below).cross w ≠ 0 :=
      fun hzero => hrim ((h.cross_elbowAt_eq_zero_iff below).1 hzero)
    rw [testBit_configuration]
    split_ifs with hbelow
    · exact hneg.2 hbelow
    · exact lt_of_le_of_ne (not_lt.1 fun hlt => hbelow (hneg.1 hlt)) hne.symm
  case line_iff => exact h.cross_elbowAt_eq_zero_iff
  case elbow_iff => exact h.elbowAt_eq_iff
  case turns_iff => exact h.coe_elbowTurns_eq_iff
  case candidates =>
    rintro r reference target behind negative rfl rfl
    exact isTakenBy_candidate r h negative

/-! ### The rods of the small arm -/

/-- A point below the shoulder, as near to it as the rods can be folded. -/
noncomputable def foldedPoint : Flat ℝ := ⟨0, -10⟩

theorem length_foldedPoint : foldedPoint.length = 10 := by
  rw [Flat.length, Scalar.sqrt_real, Real.sqrt_eq_iff_mul_self_eq_of_pos (by norm_num)]
  norm_num [foldedPoint]

theorem isInRing_foldedPoint : (ofRobot Robot.smallArm).IsInRing foldedPoint := by
  obtain ⟨hupper, hfore⟩ := Robot.smallArm_rods
  constructor <;> norm_num [hupper, hfore, length_foldedPoint, epsilon]

theorem isOnRim_foldedPoint : (ofRobot Robot.smallArm).IsOnRim foldedPoint := by
  obtain ⟨hupper, hfore⟩ := Robot.smallArm_rods
  refine Or.inr ?_
  rw [hupper, hfore, length_foldedPoint]
  norm_num

theorem isInRing_bentSeen : (ofRobot Robot.smallArm).IsInRing
    (Robot.smallArm.reached Robot.bentWrist Robot.bentSeen false) := by
  have hbranch := Robot.isExactBranch_bentSeen Robot.bentWrist false
  have hreach : (Robot.smallArm.reached Robot.bentWrist Robot.bentSeen false).length = 50 :=
    Robot.reach_front_bentSeen _
  refine ⟨Robot.upperArm_length_ne Robot.smallArm_isElbowArm, ?_, hbranch.rods.near,
    hbranch.rods.far⟩
  rw [hreach]
  norm_num [epsilon]

theorem not_isOnRim_bentSeen : ¬ (ofRobot Robot.smallArm).IsOnRim
    (Robot.smallArm.reached Robot.bentWrist Robot.bentSeen false) := by
  obtain ⟨hupper, hfore⟩ := Robot.smallArm_rods
  have hreach : (Robot.smallArm.reached Robot.bentWrist Robot.bentSeen false).length = 50 :=
    Robot.reach_front_bentSeen _
  rw [IsOnRim, hupper, hfore, hreach]
  norm_num

/-- A point that a target needs, inside of the ring, and one on its rim, where the arm is folded. -/
theorem elbowTurns_solve_smallArm :
    let p := ofRobot Robot.smallArm
    let w := Robot.smallArm.reached Robot.bentWrist Robot.bentSeen false
    (p.IsInRing w ∧ ¬ p.IsOnRim w ∧ p.IsSolved w)
      ∧ p.IsInRing foldedPoint ∧ p.IsOnRim foldedPoint ∧ p.IsSolved foldedPoint :=
  ⟨⟨isInRing_bentSeen, not_isOnRim_bentSeen, elbowTurns_solve isInRing_bentSeen⟩,
    isInRing_foldedPoint, isOnRim_foldedPoint, elbowTurns_solve isInRing_foldedPoint⟩

end ArmPlane

end SixAxis
