import SixAxis.Proofs.EulerWrist
import SixAxis.Proofs.LinkChain
import SixAxis.Proofs.PlanarArm

/-!
# Elbow arms with a spherical wrist

What the solver relies on in the geometry of a robot at home, and the two equations that the first
three joint angles of such a robot satisfy: one for the turn of the base, and one in the arm plane
for the shoulder and the elbow.

* `Robot.IsElbowArm` — the geometry;
* `Robot.armTurn_apply_eq_iff` — **when the first three joints bring the wrist centre to a point**.
-/

namespace SixAxis

/-! ### Parts across a direction -/

namespace ArmPlane

theorem partAcross_eq (n v : Vec ℝ) : partAcross n v = v - n.scale (v.dot n) := rfl

theorem dot_partAcross {n : Vec ℝ} (hn : n.dot n = 1) (v : Vec ℝ) : n.dot (partAcross n v) = 0 := by
  rw [partAcross_eq, Vec.dot_sub, Vec.dot_scale, hn, Vec.dot_comm n v]
  ring

end ArmPlane

namespace Vec.Across

variable {n a b : Vec ℝ}

/-- The part of a vector in the plane across an axis is that of its part across the axis. -/
theorem planar_partAcross (h : Across n a b) (v : Vec ℝ) :
    planar a b (ArmPlane.partAcross n v) = planar a b v := by
  have hscale : planar a b (n.scale (v.dot n)) = 0 := by
    apply Complex.ext
    · simp only [planar, Complex.zero_re]
      rw [dot_comm, dot_scale, dot_comm, h.level, zero_mul]
    · simp only [planar, Complex.zero_im]
      rw [dot_comm, dot_scale, h.side, dot_comm, dot_cross_self, zero_mul]
  rw [ArmPlane.partAcross_eq, planar_sub, hscale, sub_zero]

/-- In the plane across an axis, the length of a vector is that of its part there. -/
theorem norm_planar (h : Across n a b) (v : Vec ℝ) :
    ‖planar a b v‖ = (ArmPlane.partAcross n v).length := by
  have haxis : (ArmPlane.partAcross n v).dot n = 0 := by
    rw [dot_comm, ArmPlane.dot_partAcross h.axis_unit]
  have hsq := h.dot_eq_coordinates (ArmPlane.partAcross n v) (ArmPlane.partAcross n v)
  rw [h.planar_partAcross, haxis, mul_zero, add_zero, ← Complex.normSq_apply] at hsq
  rw [length_eq, hsq, Complex.norm_def]

end Vec.Across

namespace Robot

/-- The axis of a joint at home. -/
noncomputable def axisOf (r : Robot ℝ) (i : Joint) : Vec ℝ := (r.jointFrames.get i).zaxis

/-- The origin of a joint at home. -/
noncomputable def originOf (r : Robot ℝ) (i : Joint) : Vec ℝ := (r.jointFrames.get i).point

/-- An arm with an elbow and a spherical wrist: joint two is level and joint three parallel to it,
the last three axes meet in the origin of joint five, and the wrist centre is in the plane that the
elbow works in, off the axis of joint one. -/
structure IsElbowArm (r : Robot ℝ) : Prop extends r.IsExact where
  second_across_first : (r.axisOf Joint.second).dot (r.axisOf Joint.first) = 0
  third_along_second : r.axisOf Joint.third = r.axisOf Joint.second
  wrist_on_fourth :
    (r.axisOf Joint.fourth).cross (r.originOf Joint.fifth - r.originOf Joint.fourth) = .zero
  wrist_on_sixth :
    (r.axisOf Joint.sixth).cross (r.originOf Joint.fifth - r.originOf Joint.sixth) = .zero
  fifth_across_fourth : (r.axisOf Joint.fifth).dot (r.axisOf Joint.fourth) = 0
  sixth_along_fourth : (r.axisOf Joint.sixth).cross (r.axisOf Joint.fourth) = .zero
  wrist_in_plane :
    (r.originOf Joint.fifth - r.originOf Joint.first).dot (r.axisOf Joint.second) = 0
  wrist_off_first : epsilon ≤ (ArmPlane.partAcross (r.axisOf Joint.first)
    (r.originOf Joint.fifth - r.originOf Joint.first)).length
  upperArm_ne : (ArmPlane.partAcross (r.axisOf Joint.second)
    (r.originOf Joint.third - r.originOf Joint.second)).length ≠ 0
  forearm_ne : (ArmPlane.partAcross (r.axisOf Joint.second)
    (r.originOf Joint.fifth - r.originOf Joint.third)).length ≠ 0

variable {r : Robot ℝ}

theorem axisOf_unit (h : r.IsExact) (i : Joint) : (r.axisOf i).dot (r.axisOf i) = 1 :=
  (h.joints i).zaxis_unit

theorem normalized_unit {a : Vec ℝ} (h : a.dot a = 1) : Wrist.normalized a = a := by
  rw [Wrist.normalized, Vec.length_unit h, Vec.shrink_one]

/-! ### The arm plane at home -/

theorem plane_axis (h : r.IsExact) : (ArmPlane.ofRobot r).axis = r.axisOf Joint.first :=
  normalized_unit (axisOf_unit h _)

theorem plane_forward (h : r.IsElbowArm) :
    (ArmPlane.ofRobot r).forward = Wrist.normalized (ArmPlane.partAcross (r.axisOf Joint.first)
      (r.originOf Joint.fifth - r.originOf Joint.first)) := by
  show Wrist.normalized (if (ArmPlane.partAcross (ArmPlane.ofRobot r).axis
    (r.originOf Joint.fifth - r.originOf Joint.first)).length < epsilon then _ else
    ArmPlane.partAcross (ArmPlane.ofRobot r).axis
      (r.originOf Joint.fifth - r.originOf Joint.first)) = _
  rw [plane_axis h.toIsExact, if_neg (not_lt.2 h.wrist_off_first)]

/-- Forward and sideways make a triple with the axis of joint one. -/
theorem base_across (h : r.IsElbowArm) :
    Vec.Across (r.axisOf Joint.first) (ArmPlane.ofRobot r).forward (ArmPlane.ofRobot r).side where
  axis_unit := axisOf_unit h.toIsExact _
  unit := by
    rw [plane_forward h]
    exact Vec.dot_shrink_length (ArmPlane.epsilon_pos.trans_le h.wrist_off_first).ne'
  level := by
    rw [plane_forward h, Wrist.normalized, Vec.dot_shrink,
      ArmPlane.dot_partAcross (axisOf_unit h.toIsExact Joint.first), zero_div]
  side := by
    show (ArmPlane.ofRobot r).axis.cross (ArmPlane.ofRobot r).forward = _
    rw [plane_axis h.toIsExact]

theorem plane_along (h : r.IsElbowArm) : (ArmPlane.ofRobot r).along = r.axisOf Joint.first := by
  have hpitch := normalized_unit (axisOf_unit h.toIsExact Joint.second)
  have hcross : (r.axisOf Joint.first).dot (r.axisOf Joint.second) = 0 := by
    rw [Vec.dot_comm, h.second_across_first]
  have hpart : ArmPlane.partAcross (r.axisOf Joint.second) (r.axisOf Joint.first) =
      r.axisOf Joint.first := by
    rw [ArmPlane.partAcross_eq, hcross]
    ext <;> simp
  show Wrist.normalized (ArmPlane.partAcross (Wrist.normalized (r.axisOf Joint.second))
    (ArmPlane.ofRobot r).axis) = _
  rw [plane_axis h.toIsExact, hpitch, hpart, normalized_unit (axisOf_unit h.toIsExact _)]

/-- The directions of the arm plane make a triple with the axis of joint two. -/
theorem plane_across (h : r.IsElbowArm) :
    Vec.Across (r.axisOf Joint.second) (ArmPlane.ofRobot r).along (ArmPlane.ofRobot r).across where
  axis_unit := axisOf_unit h.toIsExact _
  unit := by
    rw [plane_along h, axisOf_unit h.toIsExact]
  level := by
    rw [plane_along h, h.second_across_first]
  side := by
    show (Wrist.normalized (r.axisOf Joint.second)).cross (ArmPlane.ofRobot r).along = _
    rw [normalized_unit (axisOf_unit h.toIsExact _)]

theorem upperArm_length (h : r.IsElbowArm) :
    (ArmPlane.ofRobot r).upperArm.length = (ArmPlane.partAcross (r.axisOf Joint.second)
      (r.originOf Joint.third - r.originOf Joint.second)).length := by
  rw [Flat.length_eq_norm, ← (plane_across h).norm_planar]
  rfl

theorem forearm_length (h : r.IsElbowArm) :
    (ArmPlane.ofRobot r).forearm.length = (ArmPlane.partAcross (r.axisOf Joint.second)
      (r.originOf Joint.fifth - r.originOf Joint.third)).length := by
  rw [Flat.length_eq_norm, ← (plane_across h).norm_planar]
  rfl

theorem upperArm_length_ne (h : r.IsElbowArm) : (ArmPlane.ofRobot r).upperArm.length ≠ 0 := by
  rw [upperArm_length h]
  exact h.upperArm_ne

theorem forearm_length_ne (h : r.IsElbowArm) : (ArmPlane.ofRobot r).forearm.length ≠ 0 := by
  rw [forearm_length h]
  exact h.forearm_ne

/-- Forward is level, as the wrist centre is in the plane that the elbow works in. -/
theorem forward_level (h : r.IsElbowArm) :
    (r.axisOf Joint.second).dot (ArmPlane.ofRobot r).forward = 0 := by
  have hpart : (r.axisOf Joint.second).dot (ArmPlane.partAcross (r.axisOf Joint.first)
      (r.originOf Joint.fifth - r.originOf Joint.first)) = 0 := by
    rw [ArmPlane.partAcross_eq, Vec.dot_sub, Vec.dot_scale, h.second_across_first, Vec.dot_comm,
      h.wrist_in_plane]
    ring
  rw [plane_forward h, Wrist.normalized, Vec.dot_shrink, hpart, zero_div]

/-- The part of a vector along the axis of joint two is its part to the side, up to a sign. -/
theorem dot_second_eq (h : r.IsElbowArm) (v : Vec ℝ) :
    v.dot (r.axisOf Joint.second) =
      (Vec.planar (ArmPlane.ofRobot r).forward (ArmPlane.ofRobot r).side v).im
        * (r.axisOf Joint.second).dot (ArmPlane.ofRobot r).side := by
  rw [(base_across h).dot_eq_coordinates v, h.second_across_first]
  simp only [Vec.planar, forward_level h]
  ring

theorem second_dot_side_ne (h : r.IsElbowArm) :
    (r.axisOf Joint.second).dot (ArmPlane.ofRobot r).side ≠ 0 := by
  intro hzero
  have hunit := dot_second_eq h (r.axisOf Joint.second)
  rw [hzero, mul_zero, axisOf_unit h.toIsExact] at hunit
  exact one_ne_zero hunit

/-! ### The first three joints -/

theorem homeTurn_apply (r : Robot ℝ) (i : Joint) (θ : ℝ) (p : Vec ℝ) :
    (r.homeTurn i θ).apply p =
      r.originOf i + (r.homeTurn i θ).linear (p - r.originOf i) :=
  Motion.rotation_apply _ _ _ _

/-- A joint leaves its own origin where it is. -/
theorem homeTurn_apply_origin (r : Robot ℝ) (i : Joint) (θ : ℝ) :
    (r.homeTurn i θ).apply (r.originOf i) = r.originOf i :=
  Motion.rotation_apply_center _ _ _

/-- The wrist centre across the axis of joint one, as a complex number. -/
noncomputable def levelOf (r : Robot ℝ) (p : Vec ℝ) : ℂ :=
  Vec.planar (ArmPlane.ofRobot r).forward (ArmPlane.ofRobot r).side (p - r.originOf Joint.first)

/-- A point seen from the shoulder in the arm plane, as a complex number. -/
noncomputable def steepOf (r : Robot ℝ) (p : Vec ℝ) : ℂ :=
  Vec.planar (ArmPlane.ofRobot r).along (ArmPlane.ofRobot r).across (p - r.originOf Joint.second)

theorem norm_levelOf (h : r.IsElbowArm) (p : Vec ℝ) :
    ‖r.levelOf p‖ =
      (ArmPlane.partAcross (r.axisOf Joint.first) (p - r.originOf Joint.first)).length :=
  (base_across h).norm_planar _

theorem norm_steepOf (h : r.IsElbowArm) (p : Vec ℝ) :
    ‖r.steepOf p‖ =
      (ArmPlane.partAcross (r.axisOf Joint.second) (p - r.originOf Joint.second)).length :=
  (plane_across h).norm_planar _

theorem levelOf_homeTurn (h : r.IsElbowArm) (θ : ℝ) (p : Vec ℝ) :
    r.levelOf ((r.homeTurn Joint.first θ).apply p) = heading θ * r.levelOf p := by
  have hcancel : (r.homeTurn Joint.first θ).apply p - r.originOf Joint.first =
      (r.homeTurn Joint.first θ).linear (p - r.originOf Joint.first) := by
    rw [homeTurn_apply]
    ext <;> simp
  rw [levelOf, hcancel]
  exact (base_across h).planar_rotation θ _ _

theorem steepOf_elbow (r : Robot ℝ) :
    r.steepOf (r.originOf Joint.third) = (ArmPlane.ofRobot r).upperArm.toComplex := rfl

/-- The elbow after joint two has turned. -/
theorem steepOf_second (h : r.IsElbowArm) (θ : ℝ) (p : Vec ℝ) :
    r.steepOf ((r.homeTurn Joint.second θ).apply p) = heading θ * r.steepOf p := by
  have hcancel : (r.homeTurn Joint.second θ).apply p - r.originOf Joint.second =
      (r.homeTurn Joint.second θ).linear (p - r.originOf Joint.second) := by
    rw [homeTurn_apply]
    ext <;> simp
  rw [steepOf, hcancel]
  exact (plane_across h).planar_rotation θ _ _

/-- The wrist centre after joint three has turned. -/
theorem steepOf_third (h : r.IsElbowArm) (φ : ℝ) :
    r.steepOf ((r.homeTurn Joint.third φ).apply (r.originOf Joint.fifth)) =
      (ArmPlane.ofRobot r).upperArm.toComplex
        + heading φ * (ArmPlane.ofRobot r).forearm.toComplex := by
  have hsplit : (r.homeTurn Joint.third φ).apply (r.originOf Joint.fifth)
      - r.originOf Joint.second =
        (r.originOf Joint.third - r.originOf Joint.second)
          + (r.homeTurn Joint.third φ).linear
            (r.originOf Joint.fifth - r.originOf Joint.third) := by
    rw [homeTurn_apply]
    ext <;> simp <;> ring
  have hturn : (r.homeTurn Joint.third φ).linear =
      (Motion.rotation (r.axisOf Joint.second) φ (r.originOf Joint.third)).linear := by
    rw [← h.third_along_second]
    rfl
  rw [steepOf, hsplit, Vec.planar_add, hturn, (plane_across h).planar_rotation]
  rfl

/-- The part of a point along the axis of joint two. -/
noncomputable def sidewaysOf (r : Robot ℝ) (p : Vec ℝ) : ℝ := p.dot (r.axisOf Joint.second)

theorem sidewaysOf_of_linear {m : Motion ℝ} {c p : Vec ℝ}
    (hm : m.apply p = c + m.linear (p - c))
    (hkeep : ∀ v, (m.linear v).dot (r.axisOf Joint.second) = v.dot (r.axisOf Joint.second)) :
    r.sidewaysOf (m.apply p) = r.sidewaysOf p := by
  have hp := hkeep (p - c)
  rw [sidewaysOf, sidewaysOf, hm]
  simp only [Vec.dot_eq, Vec.add_x, Vec.add_y, Vec.add_z, Vec.sub_x, Vec.sub_y, Vec.sub_z] at hp ⊢
  linarith

theorem sidewaysOf_second (h : r.IsElbowArm) (θ : ℝ) (p : Vec ℝ) :
    r.sidewaysOf ((r.homeTurn Joint.second θ).apply p) = r.sidewaysOf p :=
  sidewaysOf_of_linear (homeTurn_apply r _ θ p)
    fun v => Motion.rotation_linear_dot_axis (axisOf_unit h.toIsExact _) θ _ v

theorem sidewaysOf_third (h : r.IsElbowArm) (φ : ℝ) (p : Vec ℝ) :
    r.sidewaysOf ((r.homeTurn Joint.third φ).apply p) = r.sidewaysOf p := by
  refine sidewaysOf_of_linear (homeTurn_apply r _ φ p) fun v => ?_
  rw [← h.third_along_second]
  exact Motion.rotation_linear_dot_axis (axisOf_unit h.toIsExact _) φ _ v

/-- A point is known from what it is in the arm plane and along the axis of joint two. -/
theorem eq_of_steepOf (h : r.IsElbowArm) {p q : Vec ℝ} (hsteep : r.steepOf p = r.steepOf q)
    (hside : r.sidewaysOf p = r.sidewaysOf q) : p = q := by
  have hdot : (p - r.originOf Joint.second).dot (r.axisOf Joint.second) =
      (q - r.originOf Joint.second).dot (r.axisOf Joint.second) := by
    simp only [sidewaysOf, Vec.dot_eq, Vec.sub_x, Vec.sub_y, Vec.sub_z] at hside ⊢
    linarith
  have hsub := (plane_across h).ext hsteep hdot
  simp only [Vec.ext_iff, Vec.sub_x, Vec.sub_y, Vec.sub_z] at hsub
  ext
  · linarith [hsub.1]
  · linarith [hsub.2.1]
  · linarith [hsub.2.2]

/-- A point is in the plane of the wrist centre at home when it is neither to the left nor to the
right. -/
theorem sidewaysOf_eq_wrist_iff (h : r.IsElbowArm) (p : Vec ℝ) :
    r.sidewaysOf p = r.sidewaysOf (r.originOf Joint.fifth) ↔ (r.levelOf p).im = 0 := by
  have hp := dot_second_eq h (p - r.originOf Joint.first)
  have hw := h.wrist_in_plane
  have hne := second_dot_side_ne h
  have hdiff : (p - r.originOf Joint.first).dot (r.axisOf Joint.second) =
      r.sidewaysOf p - r.sidewaysOf (r.originOf Joint.fifth) := by
    simp only [sidewaysOf, Vec.dot_eq, Vec.sub_x, Vec.sub_y, Vec.sub_z] at hw ⊢
    linarith
  rw [hdiff] at hp
  rw [← sub_eq_zero, hp, mul_eq_zero, or_iff_left hne]
  rfl

/-- **When the first three joints bring the wrist centre to a point**: joint one turns the point
into the plane of the elbow, and there the rods reach it. -/
theorem armTurn_apply_eq_iff (h : r.IsElbowArm) (a b c : ℝ) (p : Vec ℝ) :
    (r.armTurn a b c).apply (r.originOf Joint.fifth) = p ↔
      (heading (-a) * r.levelOf p).im = 0
        ∧ heading b * ((ArmPlane.ofRobot r).upperArm.toComplex
            + heading c * (ArmPlane.ofRobot r).forearm.toComplex)
          = r.steepOf ((r.homeTurn Joint.first (-a)).apply p) := by
  have hexact := h.toIsExact
  have hfirst := homeTurn_isRigid hexact Joint.first a
  have hundo : (r.armTurn a b c).apply (r.originOf Joint.fifth) = p ↔
      (r.homeTurn Joint.second b).apply
          ((r.homeTurn Joint.third c).apply (r.originOf Joint.fifth))
        = (r.homeTurn Joint.first (-a)).apply p := by
    rw [armTurn, mul_assoc, Motion.mul_apply, Motion.mul_apply, homeTurn_neg hexact]
    constructor
    · rintro rfl
      rw [hfirst.inverse_apply_apply]
    · intro heq
      rw [heq, hfirst.apply_inverse_apply]
  rw [hundo, ← levelOf_homeTurn h, ← sidewaysOf_eq_wrist_iff h, ← steepOf_third h,
    ← steepOf_second h]
  constructor
  · intro heq
    rw [← heq, sidewaysOf_second h, sidewaysOf_third h]
    exact ⟨rfl, rfl⟩
  · rintro ⟨hside, hsteep⟩
    refine eq_of_steepOf h hsteep ?_
    rw [sidewaysOf_second h, sidewaysOf_third h, hside]

/-! ### An arm with an elbow -/

/-- A frame with its third direction along an axis of the world. -/
noncomputable def uprightFrame (p : Vec ℝ) : Frame ℝ := ⟨p, ⟨1, 0, 0⟩, ⟨0, 1, 0⟩⟩

@[inherit_doc uprightFrame]
noncomputable def levelFrame (p : Vec ℝ) : Frame ℝ := ⟨p, ⟨0, 0, 1⟩, ⟨1, 0, 0⟩⟩

@[inherit_doc uprightFrame]
noncomputable def forwardFrame (p : Vec ℝ) : Frame ℝ := ⟨p, ⟨0, 1, 0⟩, ⟨0, 0, 1⟩⟩

/-- An arm with an upright upper arm and a level forearm, each limit at half a turn. -/
noncomputable def smallArm : Robot ℝ where
  name := "small arm"
  manufacturer := .null
  base := uprightFrame ⟨0, 0, 0⟩
  jointFrames :=
    #v[uprightFrame ⟨0, 0, 0⟩, levelFrame ⟨33, 0, 0⟩, levelFrame ⟨33, 0, 40⟩,
      forwardFrame ⟨33, 0, 40⟩, levelFrame ⟨63, 0, 40⟩, forwardFrame ⟨70, 0, 40⟩]
  jointLimits := Vector.replicate 6 ⟨-180, 180, by norm_num⟩
  flange := forwardFrame ⟨70, 0, 40⟩
  linkMeshes := Vector.replicate 7 .empty
  tool :=
    { name := "pin"
      attachment := uprightFrame ⟨0, 0, 0⟩
      tcp := uprightFrame ⟨0, 0, 5⟩
      mesh := .empty
      mass := .whole 1
      named := by decide
      heavy := by rintro (h | h) <;> cases h }
  axes := []
  slots_nodup := List.nodup_nil

theorem smallArm_origins :
    smallArm.originOf Joint.first = ⟨0, 0, 0⟩ ∧ smallArm.originOf Joint.second = ⟨33, 0, 0⟩
      ∧ smallArm.originOf Joint.third = ⟨33, 0, 40⟩ ∧ smallArm.originOf Joint.fourth = ⟨33, 0, 40⟩
      ∧ smallArm.originOf Joint.fifth = ⟨63, 0, 40⟩ ∧ smallArm.originOf Joint.sixth = ⟨70, 0, 40⟩ :=
  ⟨rfl, rfl, rfl, rfl, rfl, rfl⟩

theorem zaxis_uprightFrame (p : Vec ℝ) : (uprightFrame p).zaxis = ⟨0, 0, 1⟩ := by
  ext <;> simp [uprightFrame, Frame.zaxis]

theorem zaxis_levelFrame (p : Vec ℝ) : (levelFrame p).zaxis = ⟨0, 1, 0⟩ := by
  ext <;> simp [levelFrame, Frame.zaxis]

theorem zaxis_forwardFrame (p : Vec ℝ) : (forwardFrame p).zaxis = ⟨1, 0, 0⟩ := by
  ext <;> simp [forwardFrame, Frame.zaxis]

theorem smallArm_axes :
    smallArm.axisOf Joint.first = ⟨0, 0, 1⟩ ∧ smallArm.axisOf Joint.second = ⟨0, 1, 0⟩
      ∧ smallArm.axisOf Joint.third = ⟨0, 1, 0⟩ ∧ smallArm.axisOf Joint.fourth = ⟨1, 0, 0⟩
      ∧ smallArm.axisOf Joint.fifth = ⟨0, 1, 0⟩ ∧ smallArm.axisOf Joint.sixth = ⟨1, 0, 0⟩ :=
  ⟨zaxis_uprightFrame _, zaxis_levelFrame _, zaxis_levelFrame _, zaxis_forwardFrame _,
    zaxis_levelFrame _, zaxis_forwardFrame _⟩

theorem isOrthonormal_uprightFrame (p : Vec ℝ) : (uprightFrame p).IsOrthonormal := by
  constructor <;> simp [uprightFrame, Vec.dot_eq]

theorem isOrthonormal_levelFrame (p : Vec ℝ) : (levelFrame p).IsOrthonormal := by
  constructor <;> simp [levelFrame, Vec.dot_eq]

theorem isOrthonormal_forwardFrame (p : Vec ℝ) : (forwardFrame p).IsOrthonormal := by
  constructor <;> simp [forwardFrame, Vec.dot_eq]

theorem smallArm_isExact : smallArm.IsExact where
  joints i := by
    match i with
    | 0 => exact isOrthonormal_uprightFrame _
    | 1 => exact isOrthonormal_levelFrame _
    | 2 => exact isOrthonormal_levelFrame _
    | 3 => exact isOrthonormal_forwardFrame _
    | 4 => exact isOrthonormal_levelFrame _
    | 5 => exact isOrthonormal_forwardFrame _
  flange := isOrthonormal_forwardFrame _
  attachment := isOrthonormal_uprightFrame _
  toolTip := isOrthonormal_uprightFrame _

/-- Parts across a direction have a length by coordinates. -/
theorem length_partAcross_of_eq {n v w : Vec ℝ} {l : ℝ} (hl : 0 ≤ l)
    (hw : ArmPlane.partAcross n v = w) (hsq : w.dot w = l * l) :
    (ArmPlane.partAcross n v).length = l := by
  rw [hw, Vec.length_eq, hsq, Real.sqrt_mul_self hl]

theorem smallArm_wrist_off_first :
    (ArmPlane.partAcross (smallArm.axisOf Joint.first)
      (smallArm.originOf Joint.fifth - smallArm.originOf Joint.first)).length = 63 := by
  obtain ⟨ha, -⟩ := smallArm_axes
  obtain ⟨ho, -, -, -, hw, -⟩ := smallArm_origins
  rw [ha, ho, hw]
  refine length_partAcross_of_eq (w := ⟨63, 0, 0⟩) (by norm_num) ?_ ?_
  · ext <;> simp [ArmPlane.partAcross_eq, Vec.dot_eq]
  · norm_num [Vec.dot_eq]

theorem smallArm_upperArm :
    (ArmPlane.partAcross (smallArm.axisOf Joint.second)
      (smallArm.originOf Joint.third - smallArm.originOf Joint.second)).length = 40 := by
  obtain ⟨-, ha, -⟩ := smallArm_axes
  obtain ⟨-, hs, he, -⟩ := smallArm_origins
  rw [ha, hs, he]
  refine length_partAcross_of_eq (w := ⟨0, 0, 40⟩) (by norm_num) ?_ ?_
  · ext <;> simp [ArmPlane.partAcross_eq, Vec.dot_eq]
  · norm_num [Vec.dot_eq]

theorem smallArm_forearm :
    (ArmPlane.partAcross (smallArm.axisOf Joint.second)
      (smallArm.originOf Joint.fifth - smallArm.originOf Joint.third)).length = 30 := by
  obtain ⟨-, ha, -⟩ := smallArm_axes
  obtain ⟨-, -, he, -, hw, -⟩ := smallArm_origins
  rw [ha, he, hw]
  refine length_partAcross_of_eq (w := ⟨30, 0, 0⟩) (by norm_num) ?_ ?_
  · ext <;> norm_num [ArmPlane.partAcross_eq, Vec.dot_eq]
  · norm_num [Vec.dot_eq]

/-- The small arm has an elbow and a spherical wrist. -/
theorem smallArm_isElbowArm : smallArm.IsElbowArm where
  toIsExact := smallArm_isExact
  second_across_first := by
    obtain ⟨h1, h2, -⟩ := smallArm_axes
    rw [h1, h2]
    norm_num [Vec.dot_eq]
  third_along_second := by
    obtain ⟨-, h2, h3, -⟩ := smallArm_axes
    rw [h2, h3]
  wrist_on_fourth := by
    obtain ⟨-, -, -, h4, -⟩ := smallArm_axes
    obtain ⟨-, -, -, ho, hw, -⟩ := smallArm_origins
    rw [h4, ho, hw, Vec.zero_eq]
    ext <;> simp
  wrist_on_sixth := by
    obtain ⟨-, -, -, -, -, h6⟩ := smallArm_axes
    obtain ⟨-, -, -, -, hw, ho⟩ := smallArm_origins
    rw [h6, ho, hw, Vec.zero_eq]
    ext <;> simp
  fifth_across_fourth := by
    obtain ⟨-, -, -, h4, h5, -⟩ := smallArm_axes
    rw [h4, h5]
    norm_num [Vec.dot_eq]
  sixth_along_fourth := by
    obtain ⟨-, -, -, h4, -, h6⟩ := smallArm_axes
    rw [h4, h6, Vec.zero_eq]
    ext <;> simp
  wrist_in_plane := by
    obtain ⟨-, h2, -⟩ := smallArm_axes
    obtain ⟨ho, -, -, -, hw, -⟩ := smallArm_origins
    rw [h2, ho, hw]
    norm_num [Vec.dot_eq]
  wrist_off_first := by
    rw [smallArm_wrist_off_first]
    norm_num [epsilon]
  upperArm_ne := by
    rw [smallArm_upperArm]
    norm_num
  forearm_ne := by
    rw [smallArm_forearm]
    norm_num

/-- The rods of the small arm. -/
theorem smallArm_rods :
    (ArmPlane.ofRobot smallArm).upperArm.length = 40
      ∧ (ArmPlane.ofRobot smallArm).forearm.length = 30 :=
  ⟨(upperArm_length smallArm_isElbowArm).trans smallArm_upperArm,
    (forearm_length smallArm_isElbowArm).trans smallArm_forearm⟩

end Robot

end SixAxis
