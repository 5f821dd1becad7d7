import SixAxis.Proofs.InverseKinematics
import SixAxis.Proofs.SolvedTargets

/-!
# Within reach

Whether the rods of an arm reach a wrist centre, by their lengths in the plane that the elbow works
in, across the axis of joint two.  Nothing is asked of the arm but that the axes of joints one and
two are not parallel and that the upper arm has a length in that plane.

The cosine at the shoulder is within one, up to the tolerance, exactly if the law of cosines has an
angle for the two rods.  Closer to the shoulder than rounding can tell no cosine is computed, and the
candidates count as within reach, whether or not the rods can fold that far.

* `ArmPlane.isReachable_shoulderCosine_iff` — the flag by the lengths of the rods;
* `Robot.plane_across_of_crossed` — the directions of the arm plane are across the axis of joint two;
* `Robot.reachable_candidates_iff` — **which candidates are flagged as within reach**, and when it is
  reported that the chosen one is not.
-/

namespace SixAxis

/-! ### Vectors that are not parallel -/

namespace Vec

theorem eq_zero_of_length {a : Vec ℝ} (h : a.length = 0) : a = .zero := by
  have hsq := length_sq a
  rw [h, mul_zero, dot_eq] at hsq
  have hx := mul_self_nonneg a.x
  have hy := mul_self_nonneg a.y
  have hz := mul_self_nonneg a.z
  rw [zero_eq]
  ext
  · exact mul_self_eq_zero.1 (by linarith)
  · exact mul_self_eq_zero.1 (by linarith)
  · exact mul_self_eq_zero.1 (by linarith)

theorem dot_normalized (a b : Vec ℝ) : a.dot (Wrist.normalized b) = a.dot b / b.length :=
  dot_shrink a b b.length

theorem normalized_dot_self {a : Vec ℝ} (h : a.length ≠ 0) :
    (Wrist.normalized a).dot (Wrist.normalized a) = 1 :=
  dot_shrink_length h

/-- A vector is its direction, stretched to its length. -/
theorem scale_normalized (a : Vec ℝ) : (Wrist.normalized a).scale a.length = a := by
  by_cases h : a.length = 0
  · rw [h, eq_zero_of_length h, zero_eq]
    ext <;> simp
  · rw [Wrist.normalized]
    ext <;> simp [h]

variable {a b : Vec ℝ}

theorem length_ne_of_crossed (h : a.cross b ≠ .zero) : a.length ≠ 0 ∧ b.length ≠ 0 := by
  constructor
  · intro ha
    refine h ?_
    rw [eq_zero_of_length ha, zero_eq]
    ext <;> simp
  · intro hb
    refine h ?_
    rw [eq_zero_of_length hb, zero_eq]
    ext <;> simp

/-- Directions that are not parallel have a part across each other. -/
theorem length_partAcross_ne (h : a.cross b ≠ .zero) :
    (ArmPlane.partAcross (Wrist.normalized b) (Wrist.normalized a)).length ≠ 0 := by
  intro hzero
  have hparallel := eq_zero_of_length hzero
  rw [ArmPlane.partAcross_eq] at hparallel
  set s := (Wrist.normalized a).dot (Wrist.normalized b)
  have hdirection : Wrist.normalized a = (Wrist.normalized b).scale s := by
    simp only [Vec.ext_iff, zero_eq, sub_x, sub_y, sub_z] at hparallel
    ext
    · exact sub_eq_zero.1 hparallel.1
    · exact sub_eq_zero.1 hparallel.2.1
    · exact sub_eq_zero.1 hparallel.2.2
  refine h ?_
  rw [← scale_normalized a, ← scale_normalized b, hdirection, zero_eq]
  ext <;> simp <;> ring

end Vec

/-! ### The flag -/

namespace ArmPlane

/-- The cosine at the shoulder counts as that of an angle exactly if the rods satisfy the law of
cosines up to the tolerance, or if the wrist centre is so close that no cosine is computed. -/
theorem isReachable_shoulderCosine_iff {p : ArmPlane ℝ} (hupper : p.upperArm.length ≠ 0)
    (reach : ℝ) :
    isReachable (p.shoulderCosine reach) = true ↔
      reach < epsilon ∨
        |p.upperArm.length ^ 2 + reach ^ 2 - p.forearm.length ^ 2|
          ≤ (1 + reachTolerance) * 2 * p.upperArm.length * reach := by
  rw [isReachable, decide_eq_true_eq, Scalar.literal_one, Scalar.abs_real]
  by_cases hnear : reach < epsilon
  · -- The cosine is one here, which is within the tolerance whatever the lengths are.
    have hcosine : p.shoulderCosine reach = 1 := by
      rw [shoulderCosine, if_pos hnear, Scalar.literal_one]
    rw [hcosine, abs_one]
    refine iff_of_true ?_ (Or.inl hnear)
    norm_num [reachTolerance]
  · have hband : epsilon ≤ reach := not_lt.1 hnear
    have hpos : 0 < 2 * p.upperArm.length * reach :=
      mul_pos (mul_pos two_pos (Flat.length_pos hupper)) (epsilon_pos.trans_le hband)
    rw [or_iff_right hnear, shoulderCosine_of_reach hband, abs_div, abs_of_pos hpos,
      div_le_iff₀ hpos, sq, sq, sq, mul_assoc, mul_assoc, mul_assoc]

end ArmPlane

namespace Robot

variable {r : Robot ℝ}

/-! ### Lengths in the arm plane -/

/-- The length of a vector across the axis of joint two. -/
noncomputable def inPlane (r : Robot ℝ) (v : Vec ℝ) : ℝ :=
  (ArmPlane.partAcross (Wrist.normalized (r.axisOf Joint.second)) v).length

/-- How far the elbow is from the shoulder in the arm plane. -/
noncomputable def upperInPlane (r : Robot ℝ) : ℝ :=
  r.inPlane (r.originOf Joint.third - r.originOf Joint.second)

/-- How far the wrist centre is from the elbow in the arm plane. -/
noncomputable def foreInPlane (r : Robot ℝ) : ℝ :=
  r.inPlane (r.originOf Joint.fifth - r.originOf Joint.third)

/-- How far the wrist centre is from the shoulder in the arm plane when the tool centre point is on
a target, with joint one turned back. -/
noncomputable def reachInPlane (r : Robot ℝ) (reference : RobotJoints ℝ) (target : Frame ℝ)
    (behind : Bool) : ℝ :=
  r.inPlane ((r.homeTurn Joint.first (-r.baseTurn reference target behind)).apply
    (r.wristCenter target) - r.originOf Joint.second)

theorem plane_along_eq (r : Robot ℝ) : (ArmPlane.ofRobot r).along =
    Wrist.normalized (ArmPlane.partAcross (Wrist.normalized (r.axisOf Joint.second))
      (Wrist.normalized (r.axisOf Joint.first))) := rfl

/-- The directions of the arm plane make a triple with the axis of joint two. -/
theorem plane_across_of_crossed
    (h : (r.axisOf Joint.first).cross (r.axisOf Joint.second) ≠ .zero) :
    Vec.Across (Wrist.normalized (r.axisOf Joint.second)) (ArmPlane.ofRobot r).along
      (ArmPlane.ofRobot r).across where
  axis_unit := Vec.normalized_dot_self (Vec.length_ne_of_crossed h).2
  unit := Vec.normalized_dot_self (Vec.length_partAcross_ne h)
  level := by
    rw [plane_along_eq, Vec.dot_normalized,
      ArmPlane.dot_partAcross (Vec.normalized_dot_self (Vec.length_ne_of_crossed h).2), zero_div]
  side := rfl

/-- Lengths in the arm plane by the directions that span it. -/
theorem length_flatten (h : (r.axisOf Joint.first).cross (r.axisOf Joint.second) ≠ .zero)
    (v : Vec ℝ) :
    (ArmPlane.flatten (ArmPlane.ofRobot r).along (ArmPlane.ofRobot r).across v).length =
      r.inPlane v := by
  rw [inPlane, ← (plane_across_of_crossed h).norm_planar, Flat.length_eq_norm]
  rfl

/-- **Which candidates are flagged as within reach**: those of a branch of joint one for which the
rods satisfy the law of cosines up to the tolerance, and those of a branch that brings the wrist
centre so close to the shoulder that no cosine is computed.  It is reported exactly of a chosen
candidate without the flag that it is out of reach. -/
theorem reachable_candidates_iff
    (hcrossed : (r.axisOf Joint.first).cross (r.axisOf Joint.second) ≠ .zero)
    (hupper : r.upperInPlane ≠ 0) (target : Frame ℝ) (external : ExternalJoints ℝ)
    (fixed : Option Configuration) (reference : RobotJoints ℝ) (i : Configuration) :
    let s := r.solution target external fixed reference
    let reach := r.reachInPlane reference (r.seenFromBase s.external target) i.behindAxisOne
    ((s.candidates.get i).reachable = true ↔
        reach < epsilon ∨
          |r.upperInPlane ^ 2 + reach ^ 2 - r.foreInPlane ^ 2|
            ≤ (1 + reachTolerance) * 2 * r.upperInPlane * reach)
      ∧ (Report.outOfReach ∈ s.reports ↔ s.chosen.reachable = false) := by
  intro s reach
  have hcandidate : s.candidates.get i = r.candidate reference
      (r.seenFromBase s.external target) i.behindAxisOne i.behindLowerArm i.fifthNegative :=
    candidates_get _ _ _ _
  have hu : (ArmPlane.ofRobot r).upperArm.length = r.upperInPlane := length_flatten hcrossed _
  have hf : (ArmPlane.ofRobot r).forearm.length = r.foreInPlane := length_flatten hcrossed _
  have hreach : r.reach reference (r.seenFromBase s.external target) i.behindAxisOne = reach :=
    length_flatten hcrossed _
  constructor
  · rw [hcandidate, candidate_eq, ← hu, ← hf, ← hreach]
    exact ArmPlane.isReachable_shoulderCosine_iff (hu.symm ▸ hupper) _
  · exact outOfReach_mem_reports_iff r target external fixed reference

theorem inPlane_of_exact (h : r.IsExact) (v : Vec ℝ) :
    r.inPlane v = (ArmPlane.partAcross (r.axisOf Joint.second) v).length := by
  rw [inPlane, normalized_unit (axisOf_unit h _)]

theorem smallArm_crossed :
    (smallArm.axisOf Joint.first).cross (smallArm.axisOf Joint.second) ≠ .zero := by
  obtain ⟨h1, h2, -⟩ := smallArm_axes
  rw [h1, h2, Vec.zero_eq]
  intro hzero
  simpa using congrArg Vec.x hzero

/-- With its base turned around, the small arm is too short for the bent wrist. -/
theorem reachable_candidates_iff_bentTarget :
    (smallArm.axisOf Joint.first).cross (smallArm.axisOf Joint.second) ≠ .zero
      ∧ smallArm.upperInPlane ≠ 0
      ∧ ((smallArm.solution bentTarget default none bentWrist).candidates.get
          (configuration true false false)).reachable = false := by
  have hupper : smallArm.upperInPlane = 40 :=
    (inPlane_of_exact smallArm_isExact _).trans smallArm_upperArm
  have hfore : smallArm.foreInPlane = 30 :=
    (inPlane_of_exact smallArm_isExact _).trans smallArm_forearm
  have hreach : smallArm.reachInPlane bentWrist bentSeen true = 104 :=
    (length_flatten smallArm_crossed _).symm.trans (reach_behind_bentSeen bentWrist)
  have hne : smallArm.upperInPlane ≠ 0 := by
    rw [hupper]
    norm_num
  refine ⟨smallArm_crossed, hne, ?_⟩
  have hflag := (reachable_candidates_iff smallArm_crossed hne bentTarget default none bentWrist
    (configuration true false false)).1
  have hbehind : smallArm.reachInPlane bentWrist
      (smallArm.seenFromBase (smallArm.solution bentTarget default none bentWrist).external
        bentTarget) (configuration true false false).behindAxisOne = 104 := hreach
  rw [hbehind, hupper, hfore] at hflag
  rw [← Bool.not_eq_true, hflag]
  norm_num [epsilon, reachTolerance]

end Robot

end SixAxis
