import SixAxis.Proofs.PosedRobots
import SixAxis.Proofs.SphericalWrist

/-!
# Robots elsewhere in exact arithmetic

A robot that no axis carries can be put anywhere by a rigid motion.  Every direction of the arm
turns with it and every point moves along, and what the solver measures — lengths, scalar products
and the linear part of the wrist in its own basis — stays what it was.  That includes the cases in
which a direction is replaced by another one or an angle is kept at the reference.

* `Motion.conjugate` — what a motion becomes when everything is moved;
* `ArmPlane.ofRobot_moved` — the arm plane moves along;
* `Robot.posture_moved` — **a posture moves along**;
* `Robot.solution_moved` — **a target that moves along has the same solution**;
* `Robot.moved_kinematics` — **the kinematics of a robot do not depend on where it stands**.
-/

namespace SixAxis

namespace Motion

variable {m : Motion ℝ}

/-! ### Conjugated motions -/

/-- What a motion becomes when everything is moved. -/
noncomputable def conjugate (m f : Motion ℝ) : Motion ℝ := m * f * m.inverse

theorem conjugate_mul_move (hm : m.IsRigid) (f : Motion ℝ) : conjugate m f * m = m * f := by
  rw [conjugate, mul_assoc, hm.inverse_mul, mul_one]

theorem conjugate_mul (hm : m.IsRigid) (f g : Motion ℝ) :
    conjugate m (f * g) = conjugate m f * conjugate m g := by
  have hcancel : conjugate m f * (m * g) = m * (f * g) := by
    rw [← mul_assoc, conjugate_mul_move hm, mul_assoc]
  rw [conjugate, ← hcancel, mul_assoc]
  rfl

theorem conjugate_one (hm : m.IsRigid) : conjugate m 1 = 1 := by
  rw [conjugate, mul_one, hm.mul_inverse]

theorem conjugate_apply (hm : m.IsRigid) (f : Motion ℝ) (p : Vec ℝ) :
    (conjugate m f).apply (m.apply p) = m.apply (f.apply p) := by
  rw [← mul_apply, conjugate_mul_move hm, mul_apply]

theorem IsRigid.conjugate (hm : m.IsRigid) {f : Motion ℝ} (hf : f.IsRigid) :
    (conjugate m f).IsRigid :=
  (hm.mul hf).mul hm.inverse

theorem conjugate_inverse (hm : m.IsRigid) {f : Motion ℝ} (hf : f.IsRigid) :
    (conjugate m f).inverse = conjugate m f.inverse := by
  have hundone : 1 = conjugate m f * conjugate m f.inverse := by
    rw [← conjugate_mul hm, hf.mul_inverse, conjugate_one hm]
  have hinverse := ((hm.conjugate hf).inverse_mul_eq_iff).2 hundone
  rwa [mul_one] at hinverse

theorem rotation_conjugate (hm : m.IsRigid) {n : Vec ℝ} (hn : n.dot n = 1) (θ : ℝ) (c : Vec ℝ) :
    rotation (m.linear n) θ (m.apply c) = conjugate m (rotation n θ c) :=
  (hm.mul_inverse_eq_iff.2 (rotation_mul_of_rigid hm hn θ c).symm).symm

/-! ### What a rigid motion keeps -/

namespace IsRigid

theorem length_linear (hm : m.IsRigid) (v : Vec ℝ) : (m.linear v).length = v.length := by
  rw [Vec.length_eq, Vec.length_eq, hm.dot_linear]

theorem normalized_linear (hm : m.IsRigid) (v : Vec ℝ) :
    Wrist.normalized (m.linear v) = m.linear (Wrist.normalized v) := by
  rw [Wrist.normalized, Wrist.normalized, hm.length_linear, linear_shrink]

theorem partAcross_linear (hm : m.IsRigid) (n v : Vec ℝ) :
    ArmPlane.partAcross (m.linear n) (m.linear v) = m.linear (ArmPlane.partAcross n v) := by
  rw [ArmPlane.partAcross_eq, ArmPlane.partAcross_eq, hm.dot_linear, linear_sub, linear_scale]

theorem flatten_linear (hm : m.IsRigid) (a b v : Vec ℝ) :
    ArmPlane.flatten (m.linear a) (m.linear b) (m.linear v) = ArmPlane.flatten a b v := by
  rw [ArmPlane.flatten, ArmPlane.flatten, hm.dot_linear, hm.dot_linear]

end IsRigid

end Motion

/-! ### Frames and shapes -/

theorem Frame.point_moved (f : Frame ℝ) (m : Motion ℝ) : (f.moved m).point = m.apply f.point := rfl

theorem Frame.xaxis_moved (f : Frame ℝ) (m : Motion ℝ) : (f.moved m).xaxis = m.linear f.xaxis := rfl

theorem Frame.moved_moved (f : Frame ℝ) (g m : Motion ℝ) :
    (f.moved g).moved m = f.moved (m * g) := by
  simp only [Frame.moved, Motion.mul_apply, Motion.mul_linear]

theorem Frame.moved_one (f : Frame ℝ) : f.moved 1 = f := by
  simp only [Frame.moved, ← Motion.identity_eq_one, Motion.identity_apply, Motion.identity_linear]

theorem Mesh.moved_eq (mesh : Mesh ℝ) (m : Motion ℝ) :
    mesh.moved m = ⟨mesh.vertices.map m.apply⟩ := by
  have hweight (p : Vec ℝ) : Motion.weight p = 1 := by simp [Motion.weight]
  simp only [Mesh.moved, hweight, Vec.shrink_one]

theorem Mesh.moved_moved (mesh : Mesh ℝ) (g m : Motion ℝ) :
    (mesh.moved g).moved m = mesh.moved (m * g) := by
  have happly : (m * g).apply = m.apply ∘ g.apply := funext (Motion.mul_apply m g)
  simp only [Mesh.moved_eq, List.map_map, happly]

theorem Mesh.moved_one (mesh : Mesh ℝ) : mesh.moved 1 = mesh := by
  have happly : (1 : Motion ℝ).apply = id := funext Motion.identity_apply
  rw [Mesh.moved_eq, happly, List.map_id]

theorem Motion.between_moved {m : Motion ℝ} (hm : m.IsRigid) (start goal : Frame ℝ) :
    Motion.between start (goal.moved m) = m * Motion.between start goal := by
  rw [Motion.between, Frame.toMotion_moved hm, Motion.between, mul_assoc]

/-! ### The arm plane -/

theorem Robot.jointFrames_moved (r : Robot ℝ) (m : Motion ℝ) (i : Joint) :
    (r.moved m).jointFrames.get i = (r.jointFrames.get i).moved m :=
  Vector.getElem_map _ i.isLt

namespace ArmPlane

/-- An arm plane moved in space: directions turn, points move along, and what is measured in the
plane stays. -/
noncomputable def moved (p : ArmPlane ℝ) (m : Motion ℝ) : ArmPlane ℝ :=
  { origin := m.apply p.origin
    axis := m.linear p.axis
    forward := m.linear p.forward
    side := m.linear p.side
    shoulder := m.apply p.shoulder
    along := m.linear p.along
    across := m.linear p.across
    upperArm := p.upperArm
    forearm := p.forearm
    wristCenter := m.apply p.wristCenter }

variable {m : Motion ℝ}

theorem ofRobot_moved (hm : m.IsRigid) (r : Robot ℝ) :
    ofRobot (r.moved m) = (ofRobot r).moved m := by
  simp only [ofRobot, moved, Robot.jointFrames_moved, Frame.zaxis_moved hm, hm.normalized_linear,
    Frame.point_moved, Frame.xaxis_moved, Motion.apply_sub_apply, hm.partAcross_linear,
    hm.length_linear, ← apply_ite m.linear, hm.cross_linear, hm.flatten_linear]

/-- The turn of the base toward a point that moves along. -/
theorem turnOfBase_moved (hm : m.IsRigid) (p : ArmPlane ℝ) (center : Vec ℝ) (reference : ℝ) :
    (p.moved m).turnOfBase (m.apply center) reference = p.turnOfBase center reference := by
  simp only [turnOfBase, moved, Motion.apply_sub_apply, hm.partAcross_linear, hm.length_linear,
    hm.dot_linear]

theorem reachedFrom_moved (hm : m.IsRigid) (p : ArmPlane ℝ) (undo : Motion ℝ) (center : Vec ℝ) :
    (p.moved m).reachedFrom (Motion.conjugate m undo) (m.apply center) =
      p.reachedFrom undo center := by
  simp only [reachedFrom, moved, Motion.conjugate_apply hm, Motion.apply_sub_apply,
    hm.flatten_linear]

end ArmPlane

/-! ### The wrist -/

namespace Motion

theorem transposed_mul (f g : Motion ℝ) : (f * g).transposed = g.transposed * f.transposed := by
  show (compose f g).transposed = compose g.transposed f.transposed
  ext <;> simp [compose, transposed, apply_eq, Vec.zero_eq] <;> ring

theorem transposed_linearPart (m : Motion ℝ) : m.linearPart.transposed = m.linearPart.inverse := by
  ext <;> simp [linearPart, inverse, transposed, Vec.zero_eq]

theorem linearPart_inverse (m : Motion ℝ) : m.inverse.linearPart = m.linearPart.inverse := by
  ext <;> simp [linearPart, inverse, transposed, Vec.zero_eq]

theorem linearPart_conjugate (m f : Motion ℝ) :
    (conjugate m f).linearPart = conjugate m.linearPart f.linearPart := by
  rw [conjugate, linearPart_mul, linearPart_mul, linearPart_inverse, conjugate]

/-- A change of basis does not see a motion of everything. -/
theorem transposed_mul_conjugate_mul {m : Motion ℝ} (hm : m.IsRigid) (basis turn : Motion ℝ) :
    (m.linearPart * basis).transposed * conjugate m.linearPart turn * (m.linearPart * basis) =
      basis.transposed * turn * basis := by
  have hlinear := hm.linearPart
  rw [transposed_mul, transposed_linearPart, mul_assoc, ← mul_assoc _ m.linearPart basis,
    conjugate_mul_move hlinear, mul_assoc, mul_assoc m.linearPart, ← mul_assoc _ m.linearPart,
    hlinear.inverse_mul, one_mul, ← mul_assoc]

end Motion

namespace Wrist

variable {m : Motion ℝ}

theorem basis_linear (hm : m.IsRigid) (fourth fifth : Vec ℝ) :
    basis (m.linear fourth) (m.linear fifth) = m.linearPart * basis fourth fifth := by
  have hzero : m.linearPart.apply Vec.zero = Vec.zero := by
    rw [Motion.apply_eq, Motion.linear_zero, Motion.linearPart, Vec.zero_eq]
    ext <;> simp
  have hpart : m.linear fifth - (m.linear fourth).scale ((m.linear fifth).dot (m.linear fourth)) =
      m.linear (fifth - fourth.scale (fifth.dot fourth)) := hm.partAcross_linear fourth fifth
  simp only [basis, hpart, hm.normalized_linear, hm.cross_linear]
  show _ = (⟨m.linear _, m.linear _, m.linear _, m.linearPart.apply Vec.zero⟩ : Motion ℝ)
  rw [hzero]

/-- The angles of the wrist are read off in its own basis. -/
theorem angles_moved (hm : m.IsRigid) (r : Robot ℝ) (turn : Motion ℝ) (reference : ℝ) :
    angles (r.moved m) (Motion.conjugate m turn) reference = angles r turn reference := by
  have hturn := Motion.linearPart_conjugate m turn
  rw [Motion.linearPart] at hturn
  simp only [angles, Robot.jointFrames_moved, Frame.zaxis_moved hm, hm.normalized_linear,
    basis_linear hm, hturn, Motion.transposed_mul_conjugate_mul hm, hm.dot_linear]
  rfl

end Wrist

/-! ### Targets that move along -/

namespace Robot

variable {r : Robot ℝ} {m : Motion ℝ}

theorem tcp_moved (hm : m.IsRigid) (r : Robot ℝ) : (r.moved m).tcp = r.tcp.moved m := by
  show r.tool.tcp.moved (Motion.between r.tool.attachment (r.flange.moved m)) = _
  rw [Motion.between_moved hm, ← Frame.moved_moved]
  rfl

theorem toolMesh_moved (hm : m.IsRigid) (r : Robot ℝ) :
    (r.moved m).toolMesh = r.toolMesh.moved m := by
  show r.tool.mesh.moved (Motion.between r.tool.attachment (r.flange.moved m)) = _
  rw [Motion.between_moved hm, ← Mesh.moved_moved]
  rfl

theorem toTarget_moved (h : r.IsExact) (hm : m.IsRigid) (target : Frame ℝ) :
    (r.moved m).toTarget (target.moved m) = Motion.conjugate m (r.toTarget target) := by
  have hstart : (r.tcp.moved m).toMotion.inverse = r.tcp.toMotion.inverse * m.inverse := by
    rw [Frame.toMotion_moved hm, hm.inverse_rev (tcp_isOrthonormal h).toMotion_isRigid]
  rw [toTarget, tcp_moved hm, Motion.between_moved hm, Motion.between, hstart, ← mul_assoc,
    ← mul_assoc, Motion.conjugate, toTarget, Motion.between, ← mul_assoc]

theorem wristCenter_moved (h : r.IsExact) (hm : m.IsRigid) (target : Frame ℝ) :
    (r.moved m).wristCenter (target.moved m) = m.apply (r.wristCenter target) := by
  rw [wristCenter, toTarget_moved h hm, ArmPlane.ofRobot_moved hm]
  exact Motion.conjugate_apply hm _ _

theorem homeTurn_moved (h : r.IsExact) (hm : m.IsRigid) (i : Joint) (θ : ℝ) :
    (r.moved m).homeTurn i θ = Motion.conjugate m (r.homeTurn i θ) := by
  rw [homeTurn, jointFrames_moved, Frame.zaxis_moved hm]
  exact Motion.rotation_conjugate hm (h.joints i).zaxis_unit _ _

theorem baseTurn_moved (h : r.IsExact) (hm : m.IsRigid) (reference : RobotJoints ℝ)
    (target : Frame ℝ) (behind : Bool) :
    (r.moved m).baseTurn reference (target.moved m) behind =
      r.baseTurn reference target behind := by
  simp only [baseTurn, wristCenter_moved h hm, ArmPlane.ofRobot_moved hm,
    ArmPlane.turnOfBase_moved hm]

theorem reached_moved (h : r.IsExact) (hm : m.IsRigid) (reference : RobotJoints ℝ)
    (target : Frame ℝ) (behind : Bool) :
    (r.moved m).reached reference (target.moved m) behind = r.reached reference target behind := by
  simp only [reached, baseTurn_moved h hm, homeTurn_moved h hm, wristCenter_moved h hm,
    ArmPlane.ofRobot_moved hm, ArmPlane.reachedFrom_moved hm]

/-- The turn that is left to the wrist is seen from the arm, which moves along. -/
theorem wristAngles_moved (h : r.IsExact) (hm : m.IsRigid) (target : Frame ℝ) (a b c : ℝ)
    (reference : ℝ) :
    Wrist.angles (r.moved m)
        (((r.moved m).armTurn a b c).inverse * (r.moved m).toTarget (target.moved m)) reference =
      Wrist.angles r ((r.armTurn a b c).inverse * r.toTarget target) reference := by
  have harm : (r.moved m).armTurn a b c = Motion.conjugate m (r.armTurn a b c) := by
    rw [armTurn, homeTurn_moved h hm, homeTurn_moved h hm, homeTurn_moved h hm, armTurn,
      Motion.conjugate_mul hm, Motion.conjugate_mul hm]
  rw [harm, toTarget_moved h hm, Motion.conjugate_inverse hm (armTurn_isRigid h a b c),
    ← Motion.conjugate_mul hm, Wrist.angles_moved hm]

theorem candidate_moved (h : r.IsExact) (hm : m.IsRigid) (reference : RobotJoints ℝ)
    (target : Frame ℝ) (behindAxisOne behindLowerArm fifthNegative : Bool) :
    (r.moved m).candidate reference (target.moved m) behindAxisOne behindLowerArm fifthNegative =
      r.candidate reference target behindAxisOne behindLowerArm fifthNegative := by
  have hwrist := wristAngles_moved h hm target
  simp only [armTurn] at hwrist
  simp only [candidate, baseTurn_moved h hm, reached_moved h hm, ArmPlane.ofRobot_moved hm, hwrist]
  rfl

theorem candidates_moved (h : r.IsExact) (hm : m.IsRigid) (reference : RobotJoints ℝ)
    (target : Frame ℝ) :
    (r.moved m).candidates reference (target.moved m) = r.candidates reference target := by
  simp only [candidates, candidate_moved h hm]

/-- The targets that the arm cannot be solved for move along. -/
theorem isDegenerateFor_moved (h : r.IsExact) (hm : m.IsRigid) (target : Frame ℝ)
    (reference : RobotJoints ℝ) :
    (r.moved m).isDegenerateFor (target.moved m) reference =
      r.isDegenerateFor target reference := by
  simp only [isDegenerateFor, reached_moved h hm, ArmPlane.ofRobot_moved hm]
  rfl

/-! ### Robots that no axis carries -/

theorem baseChange_of_uncarried (hcarrier : r.carrier = none) (external : ExternalJoints ℝ) :
    r.baseChange external = 1 := by
  rw [baseChange, hcarrier]
  rfl

/-- The external axes of a robot that none of them carries do not look at the target. -/
theorem resolve_of_uncarried (hcarrier : r.carrier = none) (external : ExternalJoints ℝ)
    (target target' : Frame ℝ) : r.resolve external target = r.resolve external target' := by
  have hfixed : ∀ a ∈ r.axes, a.axis.carriesRobot = false := by
    intro a ha
    simpa using List.find?_eq_none.1 hcarrier a ha
  rw [resolve, resolve]
  refine List.foldl_ext _ _ _ fun values a ha => ?_
  simp only [defaultValue, hfixed a ha, Bool.false_eq_true, if_false]

/-- **A target that moves along has the same solution.** -/
theorem solution_moved (h : r.IsExact) (hm : m.IsRigid) (hcarrier : r.carrier = none)
    (target : Frame ℝ) (external : ExternalJoints ℝ) (fixed : Option Configuration)
    (reference : RobotJoints ℝ) :
    (r.moved m).solution (target.moved m) external fixed reference =
      r.solution target external fixed reference := by
  have hresolve : (r.moved m).resolve external (target.moved m) = r.resolve external target :=
    resolve_of_uncarried (r := r) hcarrier external _ _
  have hbase (values : ExternalJoints ℝ) : (r.moved m).baseChange values = 1 :=
    baseChange_of_uncarried (r := r.moved m) hcarrier values
  simp only [solution, hresolve, hbase, baseChange_of_uncarried hcarrier,
    Motion.IsRigid.inverse_one, Frame.moved_one, candidates_moved h hm]
  rfl

/-! ### Postures that move along -/

theorem turnAbout_moved (hm : m.IsRigid) {f : Frame ℝ} (hf : f.IsOrthonormal) (v : ℝ) :
    turnAbout (f.moved m) v = Motion.conjugate m (turnAbout f v) :=
  (hm.mul_inverse_eq_iff.2 (turnAbout_moved_mul hm hf v).symm).symm

/-- The links of a chain whose frames move along. -/
theorem chainFrom_moved (hm : m.IsRigid) {composed : Motion ℝ} (hcomposed : composed.IsRigid)
    {l : List (Frame ℝ × ℝ)} (h : ∀ x ∈ l, x.1.IsOrthonormal) :
    chainFrom (Motion.conjugate m composed) (l.map (Prod.map (·.moved m) id)) =
      (chainFrom composed l).map (Motion.conjugate m) := by
  induction l generalizing composed with
  | nil => rfl
  | cons x rest ih =>
    have hx := (h x List.mem_cons_self).moved hcomposed
    have hturn : turnAbout ((x.1.moved m).moved (Motion.conjugate m composed)) x.2
        * Motion.conjugate m composed =
        Motion.conjugate m (turnAbout (x.1.moved composed) x.2 * composed) := by
      rw [Frame.moved_moved, Motion.conjugate_mul_move hm, ← Frame.moved_moved,
        turnAbout_moved hm hx, ← Motion.conjugate_mul hm]
    have hnext := (turnAbout_isRigid hx x.2).mul hcomposed
    show turnAbout ((x.1.moved m).moved (Motion.conjugate m composed)) x.2
        * Motion.conjugate m composed :: chainFrom (turnAbout ((x.1.moved m).moved
          (Motion.conjugate m composed)) x.2 * Motion.conjugate m composed)
        (rest.map (Prod.map (·.moved m) id)) = _
    rw [hturn, ih hnext fun y hy => h y (List.mem_cons_of_mem _ hy)]
    rfl

theorem jointFrames_toList_moved (r : Robot ℝ) (m : Motion ℝ) :
    (r.moved m).jointFrames.toList = r.jointFrames.toList.map (·.moved m) :=
  Vector.toList_map

theorem links_moved (h : r.IsExact) (hm : m.IsRigid) (q : RobotJoints ℝ) :
    (r.moved m).links q = (r.links q).map (Motion.conjugate m) := by
  have hchain := chainFrom_moved hm Motion.IsRigid.one (isOrthonormal_of_mem_zip h q)
  rw [Motion.conjugate_one hm, ← List.zip_map_left, ← jointFrames_toList_moved] at hchain
  exact hchain

theorem lastLink_moved (h : r.IsExact) (hm : m.IsRigid) (q : RobotJoints ℝ) :
    (r.moved m).lastLink q = Motion.conjugate m (r.lastLink q) := by
  rw [lastLink, links_moved h hm, List.getLast?_map, lastLink]
  cases (r.links q).getLast? with
  | none => exact (Motion.conjugate_one hm).symm
  | some link => rfl

end Robot

namespace Posture

/-- A posture moved in space: the external axes stay where they are. -/
noncomputable def moved (p : Posture ℝ) (m : Motion ℝ) : Posture ℝ :=
  { p with
    tcp := p.tcp.moved m
    jointFrames := p.jointFrames.map (·.moved m)
    meshes := p.meshes.map (·.moved m) }

end Posture

namespace Robot

variable {r : Robot ℝ} {m : Motion ℝ}

/-- **A posture moves along.** -/
theorem posture_moved (h : r.IsExact) (hm : m.IsRigid) (hcarrier : r.carrier = none)
    (q : RobotJoints ℝ) (external : ExternalJoints ℝ) (hideMeshes : Bool) :
    (r.moved m).posture q external hideMeshes = (r.posture q external hideMeshes).moved m := by
  have hbase (values : ExternalJoints ℝ) : (r.moved m).baseChange values = 1 :=
    baseChange_of_uncarried (r := r.moved m) hcarrier values
  have hframe (f : Frame ℝ) (link : Motion ℝ) :
      (f.moved m).moved (Motion.conjugate m link) = (f.moved link).moved m := by
    rw [Frame.moved_moved, Motion.conjugate_mul_move hm, Frame.moved_moved]
  have hmesh (mesh : Mesh ℝ) (link : Motion ℝ) :
      (mesh.moved m).moved (Motion.conjugate m link) = (mesh.moved link).moved m := by
    rw [Mesh.moved_moved, Motion.conjugate_mul_move hm, Mesh.moved_moved]
  simp only [posture, Posture.moved, hbase, baseChange_of_uncarried hcarrier, one_mul,
    lastLink_moved h hm, links_moved h hm, tcp_moved hm, toolMesh_moved hm, hframe, hmesh,
    jointFrames_toList_moved, List.zipWith_map, List.map_zipWith, Mesh.moved_one]
  cases hideMeshes with
  | true => rfl
  | false =>
    have hlinks : (r.moved m).linkMeshes = r.linkMeshes.map (·.moved m) := rfl
    simp only [hlinks, Vector.getElem_map, Vector.toList_map, ← List.map_tail, List.zipWith_map,
      hmesh, Bool.false_eq_true, if_false, List.map_cons, List.map_append, List.map_zipWith,
      List.map_nil]
    rfl

end Robot

/-! ### Checked computations in exact arithmetic -/

/-- Every frame is in space: no real number is infinite, or not a number. -/
theorem Frame.isFinite_real (f : Frame ℝ) : f.isFinite = true := by
  have hscalar (x : ℝ) : Scalar.isFinite x = true := by
    show (!false && decide (x = x)) = true
    simp
  simp only [isFinite, Motion.isFinite, Vec.isFinite, List.all_cons, List.all_nil, hscalar,
    Bool.and_true]

theorem Frame.inSpace_real (f : Frame ℝ) : f.inSpace = .ok f := if_pos f.isFinite_real

/-- The directions of a frame keep their lengths under a rigid motion, so nothing is taken back. -/
theorem Frame.IsOrthonormal.carried_eq {f : Frame ℝ} (h : f.IsOrthonormal) {m : Motion ℝ}
    (hm : m.IsRigid) : f.carried m = f.moved m := by
  have hlength : (f.moved m).xaxis.length = 1 := Vec.length_unit (h.moved hm).xaxis_unit
  have htolerance : ¬ (Frame.unitTolerance : ℝ) < Scalar.abs ((f.moved m).xaxis.length - 1.0) := by
    norm_num [hlength, Frame.unitTolerance]
  rw [Frame.carried, if_neg htolerance]

theorem Frame.IsOrthonormal.moved?_eq {f : Frame ℝ} (h : f.IsOrthonormal) {m : Motion ℝ}
    (hm : m.IsRigid) : f.moved? m = .ok (f.moved m) := by
  rw [Frame.moved?, h.carried_eq hm, Frame.inSpace_real]

theorem checkChainFrom_real (composed : Motion ℝ) (l : List (Frame ℝ × ℝ)) :
    checkChainFrom composed l = .ok () := by
  induction l generalizing composed with
  | nil => rfl
  | cons x rest ih =>
    rw [checkChainFrom, Frame.moved?, Frame.inSpace_real]
    exact ih _

namespace Robot

variable {r : Robot ℝ} {m : Motion ℝ}

/-- All joint values have a posture. -/
theorem pose_real (r : Robot ℝ) (q : RobotJoints ℝ) (external : ExternalJoints ℝ)
    (hideMeshes : Bool) : r.pose q external hideMeshes = .ok (r.posture q external hideMeshes) :=
  pose_eq_ok_iff.2
    ⟨⟨fun _ _ _ _ => rfl, checkChainFrom_real _ _, fun f _ => f.isFinite_real⟩, rfl⟩

theorem moved?_eq (h : r.IsExact) (hbase : r.base.IsOrthonormal) (hm : m.IsRigid) :
    r.moved? m = .ok (r.moved m) := by
  have hloop := forIn_check_eq_ok_iff.2 fun f (_ : f ∈ r.jointFrames.toList) =>
    ⟨f.carried m, (f.carried m).inSpace_real⟩
  have hframes : r.jointFrames.map (·.carried m) = (r.moved m).jointFrames := by
    refine Vector.map_congr_left fun f hf => ?_
    obtain ⟨i, hi, rfl⟩ := Vector.mem_iff_getElem.1 hf
    exact (h.joints ⟨i, hi⟩).carried_eq hm
  refine bind_eq_ok.2 ⟨⟨⟩, hloop, bind_eq_ok.2 ⟨_, hbase.moved?_eq hm,
    bind_eq_ok.2 ⟨_, h.flange.moved?_eq hm, ?_⟩⟩⟩
  simp only [hframes]
  refine bind_eq_ok.2 ⟨⟨⟩, ?_, rfl⟩
  exact bind_eq_ok.2 ⟨_, Frame.inSpace_real _, bind_eq_ok.2 ⟨_, Frame.inSpace_real _, rfl⟩⟩

/-- The kinematics of a robot that stands elsewhere, beside that of the robot. -/
structure IsMoved (r : Robot ℝ) (m : Motion ℝ) (r' : Robot ℝ) : Prop where
  pose_eq : ∀ q external hideMeshes, ∃ p, r.pose q external hideMeshes = .ok p ∧
    r'.pose q external hideMeshes = .ok (p.moved m)
  solution_eq : ∀ target : Frame ℝ, target.IsOrthonormal → ∃ target',
    target.moved? m = .ok target' ∧ ∀ external fixed reference,
      r'.solution target' external fixed reference = r.solution target external fixed reference
  degenerate_eq : ∀ (target : Frame ℝ) external reference,
    r'.isDegenerateFor (r'.seenFromBase external (target.moved m)) reference =
      r.isDegenerateFor (r.seenFromBase external target) reference

/-- **The kinematics of a robot do not depend on where it stands.** -/
theorem moved_kinematics (h : r.IsExact) (hbase : r.base.IsOrthonormal)
    (hcarrier : r.carrier = none) (hm : m.IsRigid) :
    ∃ r', r.moved? m = .ok r' ∧ r.IsMoved m r' := by
  refine ⟨r.moved m, moved?_eq h hbase hm, ⟨fun q external hideMeshes => ?_, fun target ht => ?_,
    fun target external reference => ?_⟩⟩
  · exact ⟨_, pose_real r q external hideMeshes, by
      rw [pose_real, posture_moved h hm hcarrier]⟩
  · exact ⟨_, ht.moved?_eq hm, fun external fixed reference =>
      solution_moved h hm hcarrier target external fixed reference⟩
  · have hcarrier' : (r.moved m).carrier = none := hcarrier
    rw [seenFromBase, seenFromBase, baseChange_of_uncarried hcarrier,
      baseChange_of_uncarried hcarrier', Motion.IsRigid.inverse_one, Frame.moved_one,
      Frame.moved_one, isDegenerateFor_moved h hm]

/-- A motion that takes the floor to a wall: it permutes the directions of the world. -/
noncomputable def ontoWall : Motion ℝ := ⟨⟨0, 1, 0⟩, ⟨0, 0, 1⟩, ⟨1, 0, 0⟩, ⟨1, 1, 1⟩⟩

theorem ontoWall_isRigid : ontoWall.IsRigid := by
  constructor <;> simp [ontoWall, Vec.dot_eq, Vec.ext_iff]

theorem moved_kinematics_smallArm :
    smallArm.IsExact ∧ smallArm.base.IsOrthonormal ∧ smallArm.carrier = none ∧ ontoWall.IsRigid
      ∧ ∃ r', smallArm.moved? ontoWall = .ok r' ∧ smallArm.IsMoved ontoWall r' :=
  ⟨smallArm_isExact, isOrthonormal_uprightFrame _, rfl, ontoWall_isRigid,
    moved_kinematics smallArm_isExact (isOrthonormal_uprightFrame _) rfl ontoWall_isRigid⟩

end Robot

end SixAxis
