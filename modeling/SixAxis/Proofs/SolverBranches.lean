import SixAxis.Proofs.PostureConfiguration
import SixAxis.Proofs.WholeTurns

/-!
# The branches of the solver in exact arithmetic

The six angles of a candidate, before they are fitted by whole turns, are those of three branches:
joint one toward the wrist centre or away from it, the elbow on either side, and the wrist bent to
either side.

* `Robot.branchArm_mul_wristTurn` — **the branches reach**: joints turned by the angles of any three
  branches move the tool centre point onto the target;
* `Robot.coe_angle_eq_branchAngles` — **the branches exhaust**: angles that reach the target are, up
  to whole turns, those of the branches that they themselves tell.
-/

namespace SixAxis

namespace Robot

variable {r : Robot ℝ} {reference : RobotJoints ℝ} {target : Frame ℝ}

/-! ### Joint one -/

/-- How far the wrist centre is off the axis of joint one when the tool centre point is on a
target. -/
noncomputable def horizontalOffset (r : Robot ℝ) (target : Frame ℝ) : ℝ :=
  (ArmPlane.partAcross (r.axisOf Joint.first)
    (r.wristCenter target - r.originOf Joint.first)).length

theorem horizontalOffset_eq_norm (h : r.IsElbowArm) (target : Frame ℝ) :
    r.horizontalOffset target = ‖r.levelOf (r.wristCenter target)‖ :=
  (norm_levelOf h _).symm

theorem wristCenter_eq (r : Robot ℝ) (target : Frame ℝ) :
    r.wristCenter target = (r.toTarget target).apply (r.originOf Joint.fifth) := rfl

/-- The direction of the wrist centre across the axis of joint one. -/
theorem turnOfBase_eq (h : r.IsElbowArm) (center : Vec ℝ) (reference : ℝ) :
    (ArmPlane.ofRobot r).turnOfBase center reference =
      if ‖r.levelOf center‖ < epsilon then reference else (r.levelOf center).arg := by
  have hplane := (base_across h).planar_partAcross (center - r.originOf Joint.first)
  rw [norm_levelOf h, levelOf, ← hplane, ArmPlane.turnOfBase, plane_axis h.toIsExact]
  rfl

/-- Joint one brings the wrist centre into the arm plane, ahead or behind. -/
theorem heading_neg_baseTurn (h : r.IsElbowArm)
    (hoffset : r.horizontalOffset target = 0 ∨ epsilon ≤ r.horizontalOffset target)
    (behind : Bool) :
    heading (-r.baseTurn reference target behind) * r.levelOf (r.wristCenter target) =
      ((if behind then -1 else 1) * r.horizontalOffset target : ℝ) := by
  rw [horizontalOffset_eq_norm h] at hoffset ⊢
  set z := r.levelOf (r.wristCenter target) with hz
  rcases hoffset with hzero | hband
  · rw [hzero, norm_eq_zero.1 hzero, mul_zero, mul_zero, Complex.ofReal_zero]
  · have hfront : heading (-z.arg) * z = ‖z‖ := by
      linear_combination -heading (-z.arg) * norm_mul_heading_arg z
        + ‖z‖ * heading_neg_mul z.arg
    cases behind with
    | false =>
      have hturn : r.baseTurn reference target false = z.arg := by
        rw [baseTurn, turnOfBase_eq h, ← hz, if_neg (not_lt.2 hband)]
        rfl
      rw [hturn, hfront]
      simp
    | true =>
      have hturn : r.baseTurn reference target true = z.arg + Real.pi := by
        rw [baseTurn, turnOfBase_eq h, ← hz, if_neg (not_lt.2 hband)]
        rfl
      have hhalf : heading (-Real.pi) = -1 := by
        apply Complex.ext
        · rw [heading_re, Real.cos_neg, Real.cos_pi]
          simp
        · rw [heading_im, Real.sin_neg, Real.sin_pi]
          simp
      rw [hturn, neg_add, heading_add, hhalf, mul_neg_one, neg_mul, hfront]
      simp

/-- The side of the arm plane that the wrist centre is on tells the branch of joint one. -/
theorem coe_baseTurn (h : r.IsElbowArm) (hoffset : epsilon ≤ r.horizontalOffset target) {θ : ℝ}
    (hθ : (heading (-θ) * r.levelOf (r.wristCenter target)).im = 0) :
    (θ : Real.Angle) = r.baseTurn reference target
      (decide ((heading (-θ) * r.levelOf (r.wristCenter target)).re < 0)) := by
  rw [horizontalOffset_eq_norm h] at hoffset
  set z := r.levelOf (r.wristCenter target) with hz
  set w := heading (-θ) * z with hw
  have hfront : r.baseTurn reference target false = z.arg := by
    rw [baseTurn, turnOfBase_eq h, ← hz, if_neg (not_lt.2 hoffset)]
    rfl
  have hz0 : z ≠ 0 := norm_pos_iff.1 (ArmPlane.epsilon_pos.trans_le hoffset)
  have hreal : w = (w.re : ℂ) := Complex.ext (by simp) (by simp [hθ])
  have hargs : (w.arg : Real.Angle) = -θ + z.arg := by
    rw [hw, coe_arg_heading_mul _ hz0, Real.Angle.coe_neg]
  by_cases hneg : w.re < 0
  · have hback : r.baseTurn reference target true = z.arg + Real.pi := by
      rw [← hfront]
      rfl
    have harg : w.arg = Real.pi := by
      rw [hreal, Complex.arg_ofReal_of_neg hneg]
    have hθ : (θ : Real.Angle) = z.arg - Real.pi := by
      rw [← harg, hargs]
      abel
    rw [decide_eq_true hneg, hback, hθ, Real.Angle.coe_add, Real.Angle.sub_coe_pi_eq_add_coe_pi]
  · have harg : w.arg = 0 := by
      rw [hreal, Complex.arg_ofReal_of_nonneg (not_lt.1 hneg)]
    rw [harg, Real.Angle.coe_zero] at hargs
    rw [decide_eq_false hneg, hfront, ← sub_eq_zero, ← neg_eq_zero, hargs]
    abel

/-! ### Joints two and three -/

/-- How far the wrist centre is from the shoulder in the arm plane, for a branch of joint one. -/
noncomputable def reach (r : Robot ℝ) (reference : RobotJoints ℝ) (target : Frame ℝ)
    (behind : Bool) : ℝ := (r.reached reference target behind).length

/-- The cosine at the shoulder for a branch of joint one. -/
noncomputable def elbowCosine (r : Robot ℝ) (reference : RobotJoints ℝ) (target : Frame ℝ)
    (behind : Bool) : ℝ := (ArmPlane.ofRobot r).shoulderCosine (r.reach reference target behind)

/-- The angles of joints two and three for the branches of joint one and of the elbow. -/
noncomputable def elbowTurns (r : Robot ℝ) (reference : RobotJoints ℝ) (target : Frame ℝ)
    (behind below : Bool) : ℝ × ℝ :=
  (ArmPlane.ofRobot r).turnsOfArm (r.reached reference target behind)
    (ArmPlane.shoulderAngle (r.elbowCosine reference target behind)) (if below then 1 else -1)

/-- The motion of the first three joints for the branches of joint one and of the elbow. -/
noncomputable def branchArm (r : Robot ℝ) (reference : RobotJoints ℝ) (target : Frame ℝ)
    (behind below : Bool) : Motion ℝ :=
  r.armTurn (r.baseTurn reference target behind) (r.elbowTurns reference target behind below).1
    (r.elbowTurns reference target behind below).2

theorem branchArm_isRigid (h : r.IsExact) (reference : RobotJoints ℝ) (target : Frame ℝ)
    (behind below : Bool) : (r.branchArm reference target behind below).IsRigid :=
  armTurn_isRigid h _ _ _

theorem toComplex_reached (r : Robot ℝ) (reference : RobotJoints ℝ) (target : Frame ℝ)
    (behind : Bool) :
    (r.reached reference target behind).toComplex =
      r.steepOf ((r.homeTurn Joint.first (-r.baseTurn reference target behind)).apply
        (r.wristCenter target)) := rfl

/-- Whether the wrist centre is as far from the shoulder as the rods can reach, for a branch of
joint one. -/
structure IsWithinRods (r : Robot ℝ) (reference : RobotJoints ℝ) (target : Frame ℝ)
    (behind : Bool) : Prop where
  near : |(ArmPlane.ofRobot r).upperArm.length - (ArmPlane.ofRobot r).forearm.length|
    ≤ r.reach reference target behind
  far : r.reach reference target behind
    ≤ (ArmPlane.ofRobot r).upperArm.length + (ArmPlane.ofRobot r).forearm.length

/-- The first three joints bring the wrist centre where the target needs it. -/
theorem branchArm_apply_wrist (h : r.IsElbowArm) {behind : Bool}
    (hoffset : r.horizontalOffset target = 0 ∨ epsilon ≤ r.horizontalOffset target)
    (hreach : r.reach reference target behind = 0 ∨ epsilon ≤ r.reach reference target behind)
    (hrods : r.IsWithinRods reference target behind) (below : Bool) :
    (r.branchArm reference target behind below).apply (r.originOf Joint.fifth) =
      r.wristCenter target := by
  refine (armTurn_apply_eq_iff h _ _ _ _).2 ⟨?_, ?_⟩
  · rw [heading_neg_baseTurn h hoffset]
    exact Complex.ofReal_im _
  · rw [← toComplex_reached]
    refine ArmPlane.turnsOfArm_reach (upperArm_length_ne h) hreach hrods.near hrods.far ?_
    cases below
    · exact Or.inr rfl
    · exact Or.inl rfl

/-! ### The wrist -/

/-- The turn that is left for the wrist on an arm branch. -/
noncomputable def restTurn (r : Robot ℝ) (reference : RobotJoints ℝ) (target : Frame ℝ)
    (behind below : Bool) : Motion ℝ :=
  (r.branchArm reference target behind below).inverse * r.toTarget target

/-- The sine of the bend of the wrist on an arm branch. -/
noncomputable def wristSine (r : Robot ℝ) (reference : RobotJoints ℝ) (target : Frame ℝ)
    (behind below : Bool) : ℝ :=
  Wrist.sine (r.wristView (r.restTurn reference target behind below))

/-- The angles of the wrist for three branches. -/
noncomputable def wristTurns (r : Robot ℝ) (reference : RobotJoints ℝ) (target : Frame ℝ)
    (behind below negative : Bool) : WristAngles ℝ :=
  let both := Wrist.angles r (r.restTurn reference target behind below)
    (Scalar.radians (reference.get Joint.fourth))
  if negative then both.2 else both.1

/-- The angles of the six joints for three branches. -/
noncomputable def branchAngles (r : Robot ℝ) (reference : RobotJoints ℝ) (target : Frame ℝ)
    (behind below negative : Bool) : Vector ℝ 6 :=
  let elbow := r.elbowTurns reference target behind below
  let wrist := r.wristTurns reference target behind below negative
  #v[r.baseTurn reference target behind, elbow.1, elbow.2, wrist.first, wrist.second, wrist.third]

/-- A candidate is fitted from the angles of its branches. -/
theorem candidate_eq (r : Robot ℝ) (reference : RobotJoints ℝ) (target : Frame ℝ)
    (behind below negative : Bool) :
    r.candidate reference target behind below negative =
      Candidate.ofRadians r reference (configuration behind below negative)
        (r.branchAngles reference target behind below negative)
        (ArmPlane.isReachable (r.elbowCosine reference target behind)) := by
  simp only [candidate, Scalar.literal_one]
  rfl

/-- The angles of the wrist, by the turn seen from it. -/
theorem wristTurns_eq (h : r.IsElbowArm) (reference : RobotJoints ℝ) (target : Frame ℝ)
    (behind below negative : Bool) :
    let both := Wrist.decompose (r.wristView (r.restTurn reference target behind below))
      (Scalar.radians (reference.get Joint.fourth))
    let one := if negative then both.2 else both.1
    r.wristTurns reference target behind below negative =
      ⟨one.first, one.second, r.outerSign * one.third⟩ := by
  intro both one
  rw [wristTurns, angles_eq h.hasSquareWrist]
  cases negative <;> rfl

theorem restTurn_isRigid (h : r.IsElbowArm) (ht : target.IsOrthonormal)
    (reference : RobotJoints ℝ) (behind below : Bool) :
    (r.restTurn reference target behind below).IsRigid :=
  (branchArm_isRigid h.toIsExact _ _ _ _).inverse.mul (toTarget_isRigid h.toIsExact ht)

/-- The wrist bends by the angle from the axis of joint four on the arm branch to where the target
needs that axis. -/
theorem wristSine_sq_add (h : r.IsElbowArm) (ht : target.IsOrthonormal)
    (reference : RobotJoints ℝ) (behind below : Bool) :
    r.wristSine reference target behind below * r.wristSine reference target behind below
      + (((r.branchArm reference target behind below).linear (r.axisOf Joint.fourth)).dot
        ((r.toTarget target).linear (r.axisOf Joint.fourth))) ^ 2 = 1 := by
  have harm := branchArm_isRigid h.toIsExact reference target behind below
  have hsine := Wrist.sine_sq_add
    (wristView_isRigid h.hasSquareWrist (restTurn_isRigid h ht reference behind below))
  have hcosine : (r.wristView (r.restTurn reference target behind below)).ex.x =
      ((r.branchArm reference target behind below).linear (r.axisOf Joint.fourth)).dot
        ((r.toTarget target).linear (r.axisOf Joint.fourth)) := by
    have hlinear : (r.wristView (r.restTurn reference target behind below)).ex =
        r.wristBasis.inverse.linear ((r.restTurn reference target behind below).linear
          (r.axisOf Joint.fourth)) := Motion.mul_linear _ _ _
    rw [hlinear, Motion.IsRigid.inverse_linear, restTurn, Motion.mul_linear,
      ← harm.dot_linear, harm.linear_inverse_linear]
    rfl
  rw [wristSine, ← hcosine, sq]
  exact hsine

/-! ### The branches reach -/

section Reach

variable {behind below : Bool}

/-- The turn that is left for the wrist is one about the wrist centre. -/
theorem restTurn_apply_wrist (h : r.IsElbowArm)
    (harm : (r.branchArm reference target behind below).apply (r.originOf Joint.fifth) =
      r.wristCenter target) :
    (r.restTurn reference target behind below).apply (r.originOf Joint.fifth) =
      r.originOf Joint.fifth := by
  have hrigid := branchArm_isRigid h.toIsExact reference target behind below
  rw [restTurn, Motion.mul_apply, ← wristCenter_eq, ← harm, hrigid.inverse_apply_apply]

/-- **The branches reach**: joints turned by their angles move the tool centre point onto the
target. -/
theorem branchArm_mul_wristTurn (h : r.IsElbowArm) (ht : target.IsOrthonormal)
    (hoffset : r.horizontalOffset target = 0 ∨ epsilon ≤ r.horizontalOffset target)
    (hreach : r.reach reference target behind = 0 ∨ epsilon ≤ r.reach reference target behind)
    (hrods : r.IsWithinRods reference target behind)
    (hsine : r.wristSine reference target behind below = 0
      ∨ epsilon ≤ r.wristSine reference target behind below) (negative : Bool) :
    let wrist := r.wristTurns reference target behind below negative
    r.branchArm reference target behind below
      * r.wristTurn wrist.first wrist.second wrist.third = r.toTarget target := by
  intro wrist
  have hfix := restTurn_apply_wrist h (branchArm_apply_wrist h hoffset hreach hrods below)
  have hturns := euler_angles h.hasSquareWrist (restTurn_isRigid h ht reference behind below) hsine
    (Scalar.radians (reference.get Joint.fourth))
  have hview : Wrist.euler wrist.first wrist.second (r.outerSign * wrist.third) =
      r.wristView (r.restTurn reference target behind below) := by
    cases negative
    · exact hturns.1
    · exact hturns.2
  rw [(euler_eq_wristView_iff h hfix _ _ _).1 hview, restTurn, ← mul_assoc]
  have hrigid := branchArm_isRigid h.toIsExact reference target behind below
  rw [hrigid.mul_inverse, one_mul]

end Reach

/-! ### The branches exhaust -/

section Exhaust

variable {q : RobotJoints ℝ}

theorem originAt_fifth_of_reach (h : r.IsElbowArm) (hq : r.lastLink q = r.toTarget target) :
    r.originAt q Joint.fifth = r.wristCenter target := by
  rw [originAt_fifth h, wristCenter_eq, ← hq, lastLink_eq h.toIsExact, Motion.mul_apply,
    wristTurn_apply_wrist h]

/-- The first three angles of values that reach the target solve the two equations of the arm. -/
theorem arm_equations (h : r.IsElbowArm) (hq : r.lastLink q = r.toTarget target) :
    (heading (-angle q Joint.first) * r.levelOf (r.wristCenter target)).im = 0
      ∧ heading (angle q Joint.second) * ((ArmPlane.ofRobot r).upperArm.toComplex
          + heading (angle q Joint.third) * (ArmPlane.ofRobot r).forearm.toComplex)
        = r.steepOf (r.originBack q Joint.fifth) := by
  have harm := originAt_fifth_of_reach h hq
  rw [originBack, harm]
  rw [originAt_fifth h] at harm
  exact (armTurn_apply_eq_iff h _ _ _ _).1 harm

/-- Joint one is on the branch that the wrist centre tells. -/
theorem coe_angle_first (h : r.IsElbowArm) (hq : r.lastLink q = r.toTarget target)
    (hoffset : epsilon ≤ r.horizontalOffset target) (reference : RobotJoints ℝ) :
    (angle q Joint.first : Real.Angle) =
      r.baseTurn reference target (decide (r.IsBehindAxisOne q)) := by
  have hlevel : r.levelOf (r.originBack q Joint.fifth) =
      heading (-angle q Joint.first) * r.levelOf (r.wristCenter target) := by
    rw [originBack, levelOf_homeTurn h, originAt_fifth_of_reach h hq]
  have hbehind : decide (r.IsBehindAxisOne q) =
      decide ((heading (-angle q Joint.first) * r.levelOf (r.wristCenter target)).re < 0) := by
    rw [decide_eq_decide, isBehindAxisOne_iff h, hlevel]
  rw [hbehind]
  exact coe_baseTurn h hoffset (arm_equations h hq).1

theorem toComplex_reached_of_reach (h : r.IsElbowArm) (hq : r.lastLink q = r.toTarget target)
    (hoffset : epsilon ≤ r.horizontalOffset target) (reference : RobotJoints ℝ) :
    (r.reached reference target (decide (r.IsBehindAxisOne q))).toComplex =
      r.steepOf (r.originBack q Joint.fifth) := by
  have hfirst := coe_angle_first h hq hoffset reference
  have hback : ((-angle q Joint.first : ℝ) : Real.Angle) =
      (-r.baseTurn reference target (decide (r.IsBehindAxisOne q)) : ℝ) := by
    rw [Real.Angle.coe_neg, hfirst, Real.Angle.coe_neg]
  rw [toComplex_reached, originBack, originAt_fifth_of_reach h hq, homeTurn_congr hback]

/-- The rods reach on the branch of joint one that joint values tell. -/
theorem isWithinRods_of_reach (h : r.IsElbowArm) (hq : r.lastLink q = r.toTarget target)
    (hoffset : epsilon ≤ r.horizontalOffset target) (reference : RobotJoints ℝ) :
    r.IsWithinRods reference target (decide (r.IsBehindAxisOne q)) := by
  have hrods := (arm_equations h hq).2
  rw [← toComplex_reached_of_reach h hq hoffset reference] at hrods
  obtain ⟨hnear, hfar⟩ := ArmPlane.reach_bounds hrods
  exact ⟨hnear, hfar⟩

/-- Joints two and three are on the branch that the elbow tells. -/
theorem coe_angle_second_third (h : r.IsElbowArm) (hq : r.lastLink q = r.toTarget target)
    (hoffset : epsilon ≤ r.horizontalOffset target)
    (hreach : epsilon ≤ r.reach reference target (decide (r.IsBehindAxisOne q))) :
    let elbow := r.elbowTurns reference target (decide (r.IsBehindAxisOne q))
      (decide (r.IsBehindLowerArm q))
    (angle q Joint.second : Real.Angle) = elbow.1
      ∧ (angle q Joint.third : Real.Angle) = elbow.2 := by
  intro elbow
  have hsteep := toComplex_reached_of_reach h hq hoffset reference
  have hrods := (arm_equations h hq).2
  rw [← hsteep] at hrods
  set place : Flat ℝ :=
    ⟨(r.steepOf (r.originBack q Joint.third)).re, (r.steepOf (r.originBack q Joint.third)).im⟩
    with hplace
  have hupper : place.toComplex =
      heading (angle q Joint.second) * (ArmPlane.ofRobot r).upperArm.toComplex := by
    have hcomplex : place.toComplex = r.steepOf (r.originBack q Joint.third) := rfl
    rw [hcomplex, originBack_third h.toIsExact, steepOf_second h, steepOf_elbow]
  have hside : place.cross (r.reached reference target (decide (r.IsBehindAxisOne q))) < 0 ↔
      r.IsBehindLowerArm q := by
    rw [isBehindLowerArm_iff h, ← hsteep]
    rfl
  have hturns := ArmPlane.turnsOfArm_of_reach (upperArm_length_ne h) (forearm_length_ne h) hreach
    hupper hrods
  simp only [hside] at hturns
  simp only [elbow, elbowTurns, decide_eq_true_eq]
  exact hturns

/-- Joint values that reach the target move the first three joints like their branches. -/
theorem branchArm_of_reach (h : r.IsElbowArm) (hq : r.lastLink q = r.toTarget target)
    (hoffset : epsilon ≤ r.horizontalOffset target)
    (hreach : epsilon ≤ r.reach reference target (decide (r.IsBehindAxisOne q))) :
    r.branchArm reference target (decide (r.IsBehindAxisOne q)) (decide (r.IsBehindLowerArm q)) =
      r.armTurn (angle q Joint.first) (angle q Joint.second) (angle q Joint.third) := by
  have hfirst := coe_angle_first h hq hoffset reference
  obtain ⟨hsecond, hthird⟩ := coe_angle_second_third h hq hoffset hreach
  exact (armTurn_congr hfirst hsecond hthird r).symm

/-- What is left for the wrist is what the last three joints do. -/
theorem wristView_of_reach (h : r.IsElbowArm) (hq : r.lastLink q = r.toTarget target)
    (hoffset : epsilon ≤ r.horizontalOffset target)
    (hreach : epsilon ≤ r.reach reference target (decide (r.IsBehindAxisOne q))) :
    r.wristView (r.restTurn reference target (decide (r.IsBehindAxisOne q))
        (decide (r.IsBehindLowerArm q))) =
      Wrist.euler (angle q Joint.fourth) (angle q Joint.fifth)
        (r.outerSign * angle q Joint.sixth) := by
  have harm := branchArm_of_reach h hq hoffset hreach
  have hrest : r.restTurn reference target (decide (r.IsBehindAxisOne q))
      (decide (r.IsBehindLowerArm q)) =
        r.wristTurn (angle q Joint.fourth) (angle q Joint.fifth) (angle q Joint.sixth) := by
    rw [restTurn, harm, (armTurn_isRigid h.toIsExact _ _ _).inverse_mul_eq_iff, ← hq,
      lastLink_eq h.toIsExact]
  rw [hrest]
  exact ((euler_eq_wristView_iff h (wristTurn_apply_wrist h _ _ _) _ _ _).2 rfl).symm

theorem wristSine_of_reach (h : r.IsElbowArm) (hq : r.lastLink q = r.toTarget target)
    (hoffset : epsilon ≤ r.horizontalOffset target)
    (hreach : epsilon ≤ r.reach reference target (decide (r.IsBehindAxisOne q))) :
    r.wristSine reference target (decide (r.IsBehindAxisOne q)) (decide (r.IsBehindLowerArm q)) =
      |Real.sin (angle q Joint.fifth)| := by
  rw [wristSine, wristView_of_reach h hq hoffset hreach, Wrist.sine_euler]

/-- The last three joints are on the branch that the sine of joint five tells. -/
theorem coe_angle_wrist (h : r.IsElbowArm) (hq : r.lastLink q = r.toTarget target)
    (hoffset : epsilon ≤ r.horizontalOffset target)
    (hreach : epsilon ≤ r.reach reference target (decide (r.IsBehindAxisOne q)))
    (hsine : epsilon ≤ |Real.sin (angle q Joint.fifth)|) :
    let wrist := r.wristTurns reference target (decide (r.IsBehindAxisOne q))
      (decide (r.IsBehindLowerArm q)) (decide (IsFifthNegative q))
    (angle q Joint.fourth : Real.Angle) = wrist.first
      ∧ (angle q Joint.fifth : Real.Angle) = wrist.second
      ∧ (angle q Joint.sixth : Real.Angle) = wrist.third := by
  intro wrist
  set both := Wrist.decompose (Wrist.euler (angle q Joint.fourth) (angle q Joint.fifth)
    (r.outerSign * angle q Joint.sixth)) (Scalar.radians (reference.get Joint.fourth)) with hboth
  set one := if decide (IsFifthNegative q) then both.2 else both.1 with hone
  have hwrist : wrist = ⟨one.first, one.second, r.outerSign * one.third⟩ := by
    have hturns := wristTurns_eq h reference target (decide (r.IsBehindAxisOne q))
      (decide (r.IsBehindLowerArm q)) (decide (IsFifthNegative q))
    rwa [wristView_of_reach h hq hoffset hreach] at hturns
  have hpick : (if Real.sin (angle q Joint.fifth) < 0 then both.2 else both.1) = one := by
    by_cases hneg : IsFifthNegative q
    · rw [hone, decide_eq_true hneg, if_pos rfl]
      exact if_pos hneg
    · rw [hone, decide_eq_false hneg, if_neg Bool.false_ne_true]
      exact if_neg hneg
  obtain ⟨hfirst, hsecond, hthird⟩ := Wrist.decompose_euler (a := angle q Joint.fourth)
    (c := r.outerSign * angle q Joint.sixth) hsine (Scalar.radians (reference.get Joint.fourth))
  rw [← hboth, hpick] at hfirst hsecond hthird
  rw [hwrist]
  refine ⟨hfirst, hsecond, ?_⟩
  rcases mul_self_eq_one_iff.1 (outerSign_mul_self r) with hsign | hsign
  · rw [hsign, one_mul] at hthird ⊢
    exact hthird
  · rw [hsign, neg_one_mul, Real.Angle.coe_neg] at hthird
    rw [hsign, neg_one_mul, Real.Angle.coe_neg, ← hthird, neg_neg]

/-- **The branches exhaust**: angles that reach the target are, up to whole turns, those of the
branches that they tell. -/
theorem coe_angle_eq_branchAngles (h : r.IsElbowArm) (hq : r.lastLink q = r.toTarget target)
    (hoffset : epsilon ≤ r.horizontalOffset target)
    (hreach : epsilon ≤ r.reach reference target (decide (r.IsBehindAxisOne q)))
    (hsine : epsilon ≤ |Real.sin (angle q Joint.fifth)|) (i : Joint) :
    (angle q i : Real.Angle) = (r.branchAngles reference target (decide (r.IsBehindAxisOne q))
      (decide (r.IsBehindLowerArm q)) (decide (IsFifthNegative q))).get i := by
  obtain ⟨hsecond, hthird⟩ := coe_angle_second_third h hq hoffset hreach
  obtain ⟨hfourth, hfifth, hsixth⟩ := coe_angle_wrist h hq hoffset hreach hsine
  match i with
  | 0 => exact coe_angle_first h hq hoffset reference
  | 1 => exact hsecond
  | 2 => exact hthird
  | 3 => exact hfourth
  | 4 => exact hfifth
  | 5 => exact hsixth

end Exhaust

/-! ### The target of the bent wrist -/

/-- Where the small arm is with its wrist bent. -/
noncomputable def bentTarget : Frame ℝ := (smallArm.posture bentWrist default).tcp

/-- The same seen from the base. -/
noncomputable def bentSeen : Frame ℝ :=
  smallArm.seenFromBase (smallArm.resolve default bentTarget) bentTarget

theorem bentTarget_isOrthonormal : bentTarget.IsOrthonormal :=
  posture_tcp_isOrthonormal smallArm_isExact _ _

theorem lastLink_eq_toTarget_bentSeen :
    smallArm.lastLink bentWrist = smallArm.toTarget bentSeen :=
  (posture_tcp_eq_iff smallArm_isExact bentWrist (smallArm.resolve default bentTarget)
    bentTarget).1 rfl

theorem wristCenter_bentSeen : smallArm.wristCenter bentSeen = ⟨63, 0, 40⟩ := by
  rw [← originAt_fifth_of_reach smallArm_isElbowArm lastLink_eq_toTarget_bentSeen,
    originAt_bentWrist]

theorem horizontalOffset_bentSeen : smallArm.horizontalOffset bentSeen = 63 := by
  rw [horizontalOffset, wristCenter_bentSeen]
  exact smallArm_wrist_off_first

theorem offset_bentSeen : epsilon ≤ smallArm.horizontalOffset bentSeen := by
  rw [horizontalOffset_bentSeen]
  norm_num [epsilon]

theorem not_isBehindAxisOne_bentWrist : ¬ smallArm.IsBehindAxisOne bentWrist := by
  rw [IsBehindAxisOne, originBack_bentWrist]
  exact not_lt.2 (Vec.dot_self_nonneg _)

theorem coe_baseTurn_bentSeen (reference : RobotJoints ℝ) :
    (smallArm.baseTurn reference bentSeen false : Real.Angle) = 0 := by
  have hfirst := coe_angle_first smallArm_isElbowArm lastLink_eq_toTarget_bentSeen offset_bentSeen
    reference
  rw [decide_eq_false not_isBehindAxisOne_bentWrist, angle_bentWrist.1, Real.Angle.coe_zero]
    at hfirst
  exact hfirst.symm

/-- Ahead, the rods reach. -/
theorem reach_front_bentSeen (reference : RobotJoints ℝ) :
    smallArm.reach reference bentSeen false = 50 := by
  have hreached := toComplex_reached_of_reach smallArm_isElbowArm lastLink_eq_toTarget_bentSeen
    offset_bentSeen reference
  rw [decide_eq_false not_isBehindAxisOne_bentWrist] at hreached
  rw [Robot.reach, Flat.length_eq_norm, hreached, norm_steepOf smallArm_isElbowArm]
  exact smallArm_reach

/-- Behind, the wrist centre is too far from the shoulder. -/
theorem reach_behind_bentSeen (reference : RobotJoints ℝ) :
    smallArm.reach reference bentSeen true = 104 := by
  obtain ⟨h1, h2, -⟩ := smallArm_axes
  obtain ⟨ho, hs, -⟩ := smallArm_origins
  have hturn : ((-smallArm.baseTurn reference bentSeen true : ℝ) : Real.Angle) = Real.pi := by
    have hback : smallArm.baseTurn reference bentSeen true =
        smallArm.baseTurn reference bentSeen false + Real.pi := rfl
    rw [hback, neg_add, Real.Angle.coe_add, Real.Angle.coe_neg, coe_baseTurn_bentSeen, neg_zero,
      zero_add, Real.Angle.coe_neg, Real.Angle.neg_coe_pi]
  have hplace : (smallArm.homeTurn Joint.first Real.pi).apply ⟨63, 0, 40⟩ = ⟨-63, 0, 40⟩ := by
    rw [homeTurn_apply, ho]
    refine (congrArg _ (Motion.rotation_linear (axisOf_unit smallArm_isExact Joint.first)
      _ _ _)).trans ?_
    rw [h1]
    ext <;> norm_num [Vec.dot_eq]
  rw [Robot.reach, Flat.length_eq_norm, toComplex_reached, wristCenter_bentSeen,
    homeTurn_congr hturn, hplace, norm_steepOf smallArm_isElbowArm, h2, hs]
  refine length_partAcross_of_eq (w := ⟨-96, 0, 40⟩) (by norm_num) ?_ ?_
  · ext <;> norm_num [ArmPlane.partAcross_eq, Vec.dot_eq]
  · norm_num [Vec.dot_eq]

theorem elbowCosine_bentSeen (reference : RobotJoints ℝ) :
    smallArm.elbowCosine reference bentSeen false = 4 / 5
      ∧ smallArm.elbowCosine reference bentSeen true = 2879 / 2080 := by
  obtain ⟨hupper, hfore⟩ := smallArm_rods
  rw [elbowCosine, elbowCosine, reach_front_bentSeen, reach_behind_bentSeen,
    ArmPlane.shoulderCosine_of_reach (by norm_num [epsilon]),
    ArmPlane.shoulderCosine_of_reach (by norm_num [epsilon]), hupper, hfore]
  norm_num

/-- Ahead, the wrist is bent by a right angle for either elbow. -/
theorem wristSine_bentSeen (reference : RobotJoints ℝ) (below : Bool) :
    smallArm.wristSine reference bentSeen false below = 1 := by
  have hexact := smallArm_isExact
  have hseen : bentSeen.IsOrthonormal :=
    seenFromBase_isOrthonormal _ _ bentTarget_isOrthonormal
  have hsum := wristSine_sq_add smallArm_isElbowArm hseen reference false below
  have hlevel : ((smallArm.branchArm reference bentSeen false below).linear
      (smallArm.axisOf Joint.fourth)).dot (smallArm.axisOf Joint.second) = 0 := by
    have hthird (θ : ℝ) (v : Vec ℝ) : ((smallArm.homeTurn Joint.third θ).linear v).dot
        (smallArm.axisOf Joint.second) = v.dot (smallArm.axisOf Joint.second) := by
      rw [← smallArm_isElbowArm.third_along_second]
      exact Motion.rotation_linear_dot_axis (axisOf_unit hexact _) θ _ v
    have hfourth : (smallArm.axisOf Joint.fourth).dot (smallArm.axisOf Joint.second) = 0 := by
      obtain ⟨-, h2, -, h4, -⟩ := smallArm_axes
      rw [h2, h4]
      norm_num [Vec.dot_eq]
    have hfirst :
        smallArm.homeTurn Joint.first (smallArm.baseTurn reference bentSeen false) = 1 := by
      have hturn : (smallArm.baseTurn reference bentSeen false : Real.Angle) = (0 : ℝ) := by
        rw [coe_baseTurn_bentSeen, Real.Angle.coe_zero]
      rw [homeTurn_congr hturn, homeTurn_zero hexact]
    rw [branchArm, armTurn, hfirst, one_mul, Motion.mul_linear]
    exact (Motion.rotation_linear_dot_axis (axisOf_unit hexact Joint.second) _ _ _).trans
      ((hthird _ _).trans hfourth)
  have hside : (⟨0, 1, 0⟩ : Vec ℝ) = smallArm.axisOf Joint.second := smallArm_axes.2.1.symm
  rw [← lastLink_eq_toTarget_bentSeen, lastLink_bentWrist, hside, hlevel] at hsum
  have hnonneg : 0 ≤ smallArm.wristSine reference bentSeen false below := Wrist.sine_nonneg _
  nlinarith

end Robot

end SixAxis
