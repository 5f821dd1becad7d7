import SixAxis.Arm.Solution
import SixAxis.Proofs.SphericalWrist

/-!
# The configuration of a posture

What the eight axis configurations mean for an arm whose joint values are given, with joint one
undone: whether the wrist centre is behind axis one, whether it is on the negative side of the upper
arm, and whether the sine of joint five is negative.

* `Robot.configurationOf` — the configuration that joint values have;
* `Robot.posture_jointFrames_point` — where the joints of a posture are;
* `Robot.isBehindAxisOne_iff`, `Robot.isBehindLowerArm_iff` — the configuration as signs in the
  level plane and in the arm plane.
-/

namespace SixAxis

namespace Robot

variable {r : Robot ℝ} {q : RobotJoints ℝ}

/-! ### Where the joints are -/

/-- The origin of a joint for given joint values, seen from the base. -/
noncomputable def originAt (r : Robot ℝ) (q : RobotJoints ℝ) (i : Joint) : Vec ℝ :=
  ((r.links q).getD i .identity).apply (r.originOf i)

/-- The origin of a joint for given joint values with joint one undone. -/
noncomputable def originBack (r : Robot ℝ) (q : RobotJoints ℝ) (i : Joint) : Vec ℝ :=
  (r.homeTurn Joint.first (-angle q Joint.first)).apply (r.originAt q i)

/-- Where the joints of a posture are. -/
theorem posture_jointFrames_point (h : r.IsExact) (q : RobotJoints ℝ) (external : ExternalJoints ℝ)
    (i : Joint) :
    ((r.posture q external).jointFrames.getD i .world).point =
      (r.baseChange external).apply (r.originAt q i) := by
  have hframes : (r.posture q external).jointFrames =
      r.jointFrames.toList.zipWith (fun f link => f.moved (r.baseChange external * link))
        (r.links q) := rfl
  rw [hframes, originAt, links_eq h, toList_six, ← Motion.mul_apply]
  match i with
  | 0 | 1 | 2 | 3 | 4 | 5 => rfl

theorem originAt_fifth (h : r.IsElbowArm) (q : RobotJoints ℝ) :
    r.originAt q Joint.fifth =
      (r.armTurn (angle q Joint.first) (angle q Joint.second) (angle q Joint.third)).apply
        (r.originOf Joint.fifth) := by
  have hfourth : (r.homeTurn Joint.fourth (angle q Joint.fourth)).apply (r.originOf Joint.fifth) =
      r.originOf Joint.fifth :=
    Motion.rotation_apply_of_on_axis (axisOf_unit h.toIsExact _) _ h.wrist_on_fourth
  rw [originAt, links_eq h.toIsExact]
  show (r.armTurn _ _ _ * (r.homeTurn Joint.fourth _ * r.homeTurn Joint.fifth _)).apply _ = _
  rw [Motion.mul_apply, Motion.mul_apply, homeTurn_apply_origin r, hfourth]

theorem originBack_third (h : r.IsExact) (q : RobotJoints ℝ) :
    r.originBack q Joint.third =
      (r.homeTurn Joint.second (angle q Joint.second)).apply (r.originOf Joint.third) := by
  rw [originBack, originAt, links_eq h, homeTurn_neg h]
  show (r.homeTurn Joint.first _).inverse.apply ((r.armTurn _ _ _).apply _) = _
  rw [armTurn, Motion.mul_apply, homeTurn_apply_origin r, Motion.mul_apply,
    (homeTurn_isRigid h _ _).inverse_apply_apply]

/-! ### The configuration -/

/-- Whether the wrist centre, with joint one undone, is off axis one against its direction at
home. -/
def IsBehindAxisOne (r : Robot ℝ) (q : RobotJoints ℝ) : Prop :=
  (ArmPlane.partAcross (r.axisOf Joint.first)
      (r.originBack q Joint.fifth - r.originOf Joint.first)).dot
    (ArmPlane.partAcross (r.axisOf Joint.first)
      (r.originOf Joint.fifth - r.originOf Joint.first)) < 0

/-- Whether the wrist centre is on the negative side of the upper arm, seen along axis two. -/
def IsBehindLowerArm (r : Robot ℝ) (q : RobotJoints ℝ) : Prop :=
  ((r.originBack q Joint.third - r.originOf Joint.second).cross
    (r.originBack q Joint.fifth - r.originOf Joint.second)).dot (r.axisOf Joint.second) < 0

/-- Whether the sine of joint five is negative. -/
def IsFifthNegative (q : RobotJoints ℝ) : Prop := Real.sin (angle q Joint.fifth) < 0

noncomputable instance : Decidable (r.IsBehindAxisOne q) :=
  inferInstanceAs (Decidable (_ < (_ : ℝ)))

noncomputable instance : Decidable (r.IsBehindLowerArm q) :=
  inferInstanceAs (Decidable (_ < (_ : ℝ)))

noncomputable instance : Decidable (IsFifthNegative q) := inferInstanceAs (Decidable (_ < (_ : ℝ)))

/-- The axis configuration of joint values. -/
noncomputable def configurationOf (r : Robot ℝ) (q : RobotJoints ℝ) : Configuration :=
  configuration (decide (r.IsBehindAxisOne q)) (decide (r.IsBehindLowerArm q))
    (decide (IsFifthNegative q))

/-! ### Signs in the two planes -/

/-- Behind axis one is the left half of the level plane. -/
theorem isBehindAxisOne_iff (h : r.IsElbowArm) (q : RobotJoints ℝ) :
    r.IsBehindAxisOne q ↔ (r.levelOf (r.originBack q Joint.fifth)).re < 0 := by
  have hacross := base_across h
  set toward := ArmPlane.partAcross (r.axisOf Joint.first)
    (r.originOf Joint.fifth - r.originOf Joint.first) with htoward
  set v := r.originBack q Joint.fifth - r.originOf Joint.first with hv
  have hlength : 0 < toward.length := ArmPlane.epsilon_pos.trans_le h.wrist_off_first
  have hforward : (ArmPlane.ofRobot r).forward = toward.shrink toward.length := plane_forward h
  have hre : (r.levelOf (r.originBack q Joint.fifth)).re =
      (ArmPlane.partAcross (r.axisOf Joint.first) v).dot toward / toward.length := by
    have hplane := congrArg Complex.re (hacross.planar_partAcross v)
    rw [levelOf, ← hv, ← hplane, Vec.planar, hforward, Vec.dot_shrink]
  rw [IsBehindAxisOne, hre, div_neg_iff]
  constructor
  · exact fun hneg => Or.inr ⟨hneg, hlength⟩
  · rintro (⟨-, hneg⟩ | ⟨hneg, -⟩)
    · exact absurd hneg hlength.not_gt
    · exact hneg

/-- Behind the lower arm is a sign of the vector product in the arm plane. -/
theorem isBehindLowerArm_iff (h : r.IsElbowArm) (q : RobotJoints ℝ) :
    r.IsBehindLowerArm q ↔
      (r.steepOf (r.originBack q Joint.third)).re * (r.steepOf (r.originBack q Joint.fifth)).im
        - (r.steepOf (r.originBack q Joint.third)).im * (r.steepOf (r.originBack q Joint.fifth)).re
        < 0 := by
  rw [IsBehindLowerArm, (plane_across h).cross_dot_axis]
  rfl

/-! ### The small arm with a bent wrist -/

/-- Joint values that leave the arm at home and bend the wrist to the side. -/
noncomputable def bentWrist : RobotJoints ℝ := ⟨#v[0, 0, 0, 90, 90, 0]⟩

theorem angle_bentWrist :
    angle bentWrist Joint.first = 0 ∧ angle bentWrist Joint.second = 0
      ∧ angle bentWrist Joint.third = 0 ∧ angle bentWrist Joint.fourth = Real.pi / 2
      ∧ angle bentWrist Joint.fifth = Real.pi / 2 ∧ angle bentWrist Joint.sixth = 0 := by
  have hzero : Scalar.radians (0 : ℝ) = 0 := by
    rw [Scalar.radians_real, zero_mul]
  have hquarter : Scalar.radians (90 : ℝ) = Real.pi / 2 := by
    rw [Scalar.radians_real]
    ring
  exact ⟨hzero, hzero, hzero, hquarter, hquarter, hzero⟩

theorem homeTurn_zero (h : r.IsExact) (i : Joint) : r.homeTurn i 0 = 1 :=
  Motion.rotation_zero (h.joints i).zaxis_unit _

theorem armTurn_zero (h : r.IsExact) : r.armTurn 0 0 0 = 1 := by
  rw [armTurn, homeTurn_zero h, homeTurn_zero h, homeTurn_zero h, one_mul, one_mul]

/-- With the arm at home the wrist centre is at home. -/
theorem originAt_bentWrist : smallArm.originAt bentWrist Joint.fifth = ⟨63, 0, 40⟩ := by
  obtain ⟨h1, h2, h3, -⟩ := angle_bentWrist
  rw [originAt_fifth smallArm_isElbowArm, h1, h2, h3, armTurn_zero smallArm_isExact,
    ← Motion.identity_eq_one, Motion.identity_apply]
  rfl

theorem originBack_bentWrist : smallArm.originBack bentWrist Joint.fifth = ⟨63, 0, 40⟩ := by
  obtain ⟨h1, -⟩ := angle_bentWrist
  rw [originBack, h1, neg_zero, homeTurn_zero smallArm_isExact, ← Motion.identity_eq_one,
    Motion.identity_apply, originAt_bentWrist]

/-- The bent wrist points along the axis of the elbow. -/
theorem lastLink_bentWrist :
    (smallArm.lastLink bentWrist).linear (smallArm.axisOf Joint.fourth) = ⟨0, 1, 0⟩ := by
  obtain ⟨-, -, -, ha4, ha5, ha6⟩ := smallArm_axes
  obtain ⟨h1, h2, h3, h4, h5, h6⟩ := angle_bentWrist
  have hunit := axisOf_unit smallArm_isExact
  have hfifth : (smallArm.homeTurn Joint.fifth (Real.pi / 2)).linear ⟨1, 0, 0⟩ = ⟨0, 0, -1⟩ := by
    refine (Motion.rotation_linear (hunit Joint.fifth) _ _ _).trans ?_
    rw [ha5]
    ext <;> simp [Vec.dot_eq]
  have hfourth : (smallArm.homeTurn Joint.fourth (Real.pi / 2)).linear ⟨0, 0, -1⟩ = ⟨0, 1, 0⟩ := by
    refine (Motion.rotation_linear (hunit Joint.fourth) _ _ _).trans ?_
    rw [ha4]
    ext <;> simp [Vec.dot_eq]
  rw [lastLink_eq smallArm_isExact, h1, h2, h3, h4, h5, h6, armTurn_zero smallArm_isExact, one_mul,
    wristTurn, homeTurn_zero smallArm_isExact, mul_one, Motion.mul_linear, ha4, hfifth, hfourth]

theorem smallArm_offset :
    (ArmPlane.partAcross (smallArm.axisOf Joint.first)
      (smallArm.originAt bentWrist Joint.fifth - smallArm.originOf Joint.first)).length = 63 := by
  rw [originAt_bentWrist]
  exact smallArm_wrist_off_first

theorem smallArm_reach :
    (ArmPlane.partAcross (smallArm.axisOf Joint.second)
      (smallArm.originBack bentWrist Joint.fifth
        - smallArm.originOf Joint.second)).length = 50 := by
  obtain ⟨-, ha, -⟩ := smallArm_axes
  obtain ⟨-, hs, -⟩ := smallArm_origins
  rw [originBack_bentWrist, ha, hs]
  refine length_partAcross_of_eq (w := ⟨30, 0, 40⟩) (by norm_num) ?_ ?_
  · ext <;> norm_num [ArmPlane.partAcross_eq, Vec.dot_eq]
  · norm_num [Vec.dot_eq]

end Robot

end SixAxis
