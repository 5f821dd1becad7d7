import SixAxis.Arm.Solution
import SixAxis.Proofs.Rotation

/-!
# The chain of links in exact arithmetic

Forward kinematics turns each joint about its frame after the joints before it have carried the
frame along.  The motion of the last link is the product of the turns about the frames at home, the
first joint leftmost.

* `Frame.IsOrthonormal` — the frames that constructors make;
* `Robot.links_eq` — **the links move by the products of the turns at home**;
* `Robot.posture_tcp_eq_iff` — when a posture has its tool centre point on a target.
-/

namespace SixAxis

/-! ### Orthonormal frames -/

namespace Frame

/-- Whether the directions of a frame are unit vectors at right angles. -/
structure IsOrthonormal (f : Frame ℝ) : Prop where
  xaxis_unit : f.xaxis.dot f.xaxis = 1
  yaxis_unit : f.yaxis.dot f.yaxis = 1
  square : f.xaxis.dot f.yaxis = 0

variable {f g : Frame ℝ} {m : Motion ℝ}

theorem IsOrthonormal.toMotion_isRigid (h : f.IsOrthonormal) : f.toMotion.IsRigid :=
  ⟨h.xaxis_unit, h.yaxis_unit, h.square, rfl⟩

theorem IsOrthonormal.zaxis_unit (h : f.IsOrthonormal) : f.zaxis.dot f.zaxis = 1 :=
  h.toMotion_isRigid.ez_unit

theorem IsOrthonormal.moved (h : f.IsOrthonormal) (hm : m.IsRigid) : (f.moved m).IsOrthonormal where
  xaxis_unit := (hm.dot_linear _ _).trans h.xaxis_unit
  yaxis_unit := (hm.dot_linear _ _).trans h.yaxis_unit
  square := (hm.dot_linear _ _).trans h.square

theorem zaxis_moved (hm : m.IsRigid) (f : Frame ℝ) : (f.moved m).zaxis = m.linear f.zaxis :=
  hm.cross_linear _ _

theorem toMotion_moved (hm : m.IsRigid) (f : Frame ℝ) : (f.moved m).toMotion = m * f.toMotion := by
  show (⟨m.linear f.xaxis, m.linear f.yaxis, (f.moved m).zaxis, m.apply f.point⟩ : Motion ℝ) = _
  rw [zaxis_moved hm]
  rfl

theorem toMotion_injective (h : f.toMotion = g.toMotion) : f = g := by
  obtain ⟨point, xaxis, yaxis⟩ := f
  obtain ⟨point', xaxis', yaxis'⟩ := g
  simp only [toMotion, Motion.mk.injEq] at h
  simp [h]

end Frame

/-! ### The motions of the links -/

theorem turnAbout_moved_mul {m : Motion ℝ} (hm : m.IsRigid) {f : Frame ℝ} (hf : f.IsOrthonormal)
    (v : ℝ) : turnAbout (f.moved m) v * m = m * turnAbout f v := by
  rw [turnAbout, turnAbout, Frame.zaxis_moved hm]
  exact Motion.rotation_mul_of_rigid hm hf.zaxis_unit _ _

theorem turnAbout_isRigid {f : Frame ℝ} (hf : f.IsOrthonormal) (v : ℝ) :
    (turnAbout f v).IsRigid :=
  Motion.rotation_isRigid hf.zaxis_unit _ _

theorem isOrthonormal_of_mem_zip_left {frames : List (Frame ℝ)}
    (h : ∀ f ∈ frames, f.IsOrthonormal) (values : List ℝ) :
    ∀ x ∈ frames.zip values, x.1.IsOrthonormal :=
  fun x hx => h x.1 (List.of_mem_zip hx).1

/-- The products of the turns at home behind a motion. -/
noncomputable def productsFrom (m : Motion ℝ) : List (Frame ℝ × ℝ) → List (Motion ℝ)
  | [] => []
  | (frame, value) :: rest =>
    let next := m * turnAbout frame value
    next :: productsFrom next rest

theorem chainFrom_eq_productsFrom {m : Motion ℝ} (hm : m.IsRigid) {l : List (Frame ℝ × ℝ)}
    (h : ∀ x ∈ l, x.1.IsOrthonormal) : chainFrom m l = productsFrom m l := by
  induction l generalizing m with
  | nil => rfl
  | cons x rest ih =>
    have hx := h x List.mem_cons_self
    rw [chainFrom, productsFrom]
    simp only [turnAbout_moved_mul hm hx]
    rw [ih (hm.mul (turnAbout_isRigid hx x.2)) fun y hy => h y (List.mem_cons_of_mem _ hy)]

theorem toList_six {α : Type} (v : Vector α 6) :
    v.toList = [v.get 0, v.get 1, v.get 2, v.get 3, v.get 4, v.get 5] := by
  obtain ⟨⟨l⟩, hl⟩ := v
  match l, hl with
  | [_, _, _, _, _, _], _ => rfl

namespace Robot

variable {r : Robot ℝ}

/-- Whether all frames of a robot are orthonormal. -/
structure IsExact (r : Robot ℝ) : Prop where
  joints : ∀ i, (r.jointFrames.get i).IsOrthonormal
  flange : r.flange.IsOrthonormal
  attachment : r.tool.attachment.IsOrthonormal
  toolTip : r.tool.tcp.IsOrthonormal

theorem homeTurn_isRigid (h : r.IsExact) (i : Joint) (θ : ℝ) : (r.homeTurn i θ).IsRigid :=
  Motion.rotation_isRigid (h.joints i).zaxis_unit _ _

theorem homeTurn_congr {θ φ : ℝ} (h : (θ : Real.Angle) = φ) (r : Robot ℝ) (i : Joint) :
    r.homeTurn i θ = r.homeTurn i φ :=
  Motion.rotation_congr h _ _

theorem homeTurn_neg (h : r.IsExact) (i : Joint) (θ : ℝ) :
    r.homeTurn i (-θ) = (r.homeTurn i θ).inverse :=
  Motion.rotation_neg (h.joints i).zaxis_unit _ _

/-- The turns of the first three joints. -/
noncomputable def armTurn (r : Robot ℝ) (a b c : ℝ) : Motion ℝ :=
  r.homeTurn Joint.first a * r.homeTurn Joint.second b * r.homeTurn Joint.third c

/-- The turns of the last three joints. -/
noncomputable def wristTurn (r : Robot ℝ) (a b c : ℝ) : Motion ℝ :=
  r.homeTurn Joint.fourth a * r.homeTurn Joint.fifth b * r.homeTurn Joint.sixth c

theorem armTurn_isRigid (h : r.IsExact) (a b c : ℝ) : (r.armTurn a b c).IsRigid :=
  ((homeTurn_isRigid h _ a).mul (homeTurn_isRigid h _ b)).mul (homeTurn_isRigid h _ c)

theorem wristTurn_isRigid (h : r.IsExact) (a b c : ℝ) : (r.wristTurn a b c).IsRigid :=
  ((homeTurn_isRigid h _ a).mul (homeTurn_isRigid h _ b)).mul (homeTurn_isRigid h _ c)

/-- The first three joints depend on their angles up to whole turns. -/
theorem armTurn_congr {a b c a' b' c' : ℝ} (ha : (a : Real.Angle) = a') (hb : (b : Real.Angle) = b')
    (hc : (c : Real.Angle) = c') (r : Robot ℝ) : r.armTurn a b c = r.armTurn a' b' c' := by
  rw [armTurn, armTurn, homeTurn_congr ha, homeTurn_congr hb, homeTurn_congr hc]

/-- The last three joints depend on their angles up to whole turns. -/
theorem wristTurn_congr {a b c a' b' c' : ℝ} (ha : (a : Real.Angle) = a')
    (hb : (b : Real.Angle) = b') (hc : (c : Real.Angle) = c') (r : Robot ℝ) :
    r.wristTurn a b c = r.wristTurn a' b' c' := by
  rw [wristTurn, wristTurn, homeTurn_congr ha, homeTurn_congr hb, homeTurn_congr hc]

/-- The value of a joint in radians. -/
noncomputable def angle (q : RobotJoints ℝ) (i : Joint) : ℝ := Scalar.radians (q.get i)

theorem isOrthonormal_of_mem_jointFrames (h : r.IsExact) :
    ∀ f ∈ r.jointFrames.toList, f.IsOrthonormal := by
  intro f hmem
  rw [toList_six] at hmem
  simp only [List.mem_cons, List.not_mem_nil, or_false] at hmem
  rcases hmem with hf | hf | hf | hf | hf | hf <;> rw [hf] <;> exact h.joints _

theorem isOrthonormal_of_mem_zip (h : r.IsExact) (q : RobotJoints ℝ) :
    ∀ x ∈ r.jointFrames.toList.zip q.toList, x.1.IsOrthonormal :=
  isOrthonormal_of_mem_zip_left (isOrthonormal_of_mem_jointFrames h) _

/-- **The links move by the products of the turns at home.** -/
theorem links_eq (h : r.IsExact) (q : RobotJoints ℝ) :
    r.links q =
      [r.homeTurn Joint.first (angle q Joint.first),
       r.homeTurn Joint.first (angle q Joint.first)
         * r.homeTurn Joint.second (angle q Joint.second),
       r.armTurn (angle q Joint.first) (angle q Joint.second) (angle q Joint.third),
       r.armTurn (angle q Joint.first) (angle q Joint.second) (angle q Joint.third)
         * r.homeTurn Joint.fourth (angle q Joint.fourth),
       r.armTurn (angle q Joint.first) (angle q Joint.second) (angle q Joint.third)
         * (r.homeTurn Joint.fourth (angle q Joint.fourth)
           * r.homeTurn Joint.fifth (angle q Joint.fifth)),
       r.armTurn (angle q Joint.first) (angle q Joint.second) (angle q Joint.third)
         * r.wristTurn (angle q Joint.fourth) (angle q Joint.fifth) (angle q Joint.sixth)] := by
  rw [links, chain, Motion.identity_eq_one,
    chainFrom_eq_productsFrom Motion.IsRigid.one (isOrthonormal_of_mem_zip h q), Joints.toList,
    toList_six, toList_six]
  simp only [List.zip_cons_cons, List.zip_nil_right, productsFrom, one_mul, armTurn, wristTurn,
    mul_assoc]
  rfl

theorem lastLink_eq (h : r.IsExact) (q : RobotJoints ℝ) :
    r.lastLink q =
      r.armTurn (angle q Joint.first) (angle q Joint.second) (angle q Joint.third)
        * r.wristTurn (angle q Joint.fourth) (angle q Joint.fifth) (angle q Joint.sixth) := by
  rw [lastLink, links_eq h]
  rfl

/-! ### The tool centre point -/

theorem lastLink_isRigid (h : r.IsExact) (q : RobotJoints ℝ) : (r.lastLink q).IsRigid := by
  rw [lastLink_eq h]
  exact (armTurn_isRigid h _ _ _).mul (wristTurn_isRigid h _ _ _)

theorem tcp_isOrthonormal (h : r.IsExact) : r.tcp.IsOrthonormal :=
  h.toolTip.moved (h.flange.toMotion_isRigid.mul h.attachment.toMotion_isRigid.inverse)

/-- The axis that carries a robot is linear, so it moves it rigidly. -/
theorem baseChange_isRigid (r : Robot ℝ) (external : ExternalJoints ℝ) :
    (r.baseChange external).IsRigid := by
  rw [baseChange]
  cases h : r.carrier with
  | none => exact Motion.IsRigid.one
  | some a =>
    have hcarries : a.axis.carriesRobot = true := by
      have hfound := List.find?_some h
      exact hfound
    simp only [ExternalAxis.motionAt, a.axis.carrier_linear hcarries]
    exact Motion.displacement_isRigid _

theorem toTarget_isRigid (h : r.IsExact) {target : Frame ℝ} (ht : target.IsOrthonormal) :
    (r.toTarget target).IsRigid :=
  ht.toMotion_isRigid.mul (tcp_isOrthonormal h).toMotion_isRigid.inverse

/-- A target seen from the base of the robot for values of the external axes. -/
noncomputable def seenFromBase (r : Robot ℝ) (external : ExternalJoints ℝ) (target : Frame ℝ) :
    Frame ℝ := target.moved (r.baseChange external).inverse

theorem seenFromBase_isOrthonormal (r : Robot ℝ) (external : ExternalJoints ℝ) {target : Frame ℝ}
    (ht : target.IsOrthonormal) : (r.seenFromBase external target).IsOrthonormal :=
  ht.moved (baseChange_isRigid r external).inverse

theorem posture_tcp_isOrthonormal (h : r.IsExact) (q : RobotJoints ℝ)
    (external : ExternalJoints ℝ) : (r.posture q external).tcp.IsOrthonormal :=
  (tcp_isOrthonormal h).moved ((baseChange_isRigid r external).mul (lastLink_isRigid h q))

/-- **A posture is on a target** when its last link moves the tool centre point there. -/
theorem posture_tcp_eq_iff (h : r.IsExact) (q : RobotJoints ℝ) (external : ExternalJoints ℝ)
    (target : Frame ℝ) :
    (r.posture q external).tcp = target ↔
      r.lastLink q = r.toTarget (r.seenFromBase external target) := by
  have hbase := baseChange_isRigid r external
  have htcp := (tcp_isOrthonormal h).toMotion_isRigid
  have hlast := lastLink_isRigid h q
  have hseen : (r.seenFromBase external target).toMotion =
      (r.baseChange external).inverse * target.toMotion := Frame.toMotion_moved hbase.inverse target
  have hposed : ((r.posture q external).tcp).toMotion =
      r.baseChange external * r.lastLink q * r.tcp.toMotion :=
    Frame.toMotion_moved (hbase.mul hlast) r.tcp
  rw [toTarget, Motion.between, hseen, eq_comm (a := r.lastLink q), htcp.mul_inverse_eq_iff,
    hbase.inverse_mul_eq_iff, ← mul_assoc, ← hposed]
  exact ⟨fun heq => by rw [heq], fun heq => (Frame.toMotion_injective heq).symm⟩

end Robot

end SixAxis
