import SixAxis.Proofs.PosedMeshes
import SixAxis.Proofs.ToolHistories

/-!
# Tools on a flange in exact arithmetic

A tool is mounted by the motion that takes the frame that it is attached with onto the flange.  From
then on the two move together, so the tool centre point of a posture, seen from the flange where the
base and the six joints have brought it, is what it is in the space that the tool is modelled in.
That is the pose which a system module writes for the tool.

* `Frame.relativeTo_moved` — **frames that move together stay what they are to each other**;
* `Tool.attachedTo_isMounted` — a mounted tool meets the flange and keeps its centre point;
* `Robot.relativeTo_posedFlange` — the tool centre point of a posture, seen from the flange;
* `SystemModule.poseLine_mem_declared` — the pose that is written for a tool;
* `Robot.usesWritten` — **the tool data that are written are those that are used**.
-/

namespace SixAxis

variable {m : Motion ℝ}

/-! ### Frames seen from each other -/

/-- **Frames that move together stay what they are to each other.** -/
theorem Frame.relativeTo_moved (hm : m.IsRigid) (f : Frame ℝ) {g : Frame ℝ}
    (hg : g.IsOrthonormal) : (f.moved m).relativeTo (g.moved m) = f.relativeTo g := by
  have hundone : (g.moved m).toMotion.inverse * m = g.toMotion.inverse := by
    rw [toMotion_moved hm, hm.inverse_rev hg.toMotion_isRigid, mul_assoc, hm.inverse_mul, mul_one]
  rw [relativeTo, moved_moved, hundone, relativeTo]

/-- The motion between two frames takes the first to the second. -/
theorem Frame.moved_between {start goal : Frame ℝ} (hstart : start.IsOrthonormal)
    (hgoal : goal.IsOrthonormal) : start.moved (Motion.between start goal) = goal := by
  refine toMotion_injective ?_
  rw [toMotion_moved (Motion.between_isRigid hstart hgoal), Motion.between, mul_assoc,
    hstart.toMotion_isRigid.inverse_mul, mul_one]

/-! ### Mounting a tool -/

namespace Tool

/-- Whether the frames of a tool are orthonormal. -/
structure IsExact (t : Tool ℝ) : Prop where
  attachment : t.attachment.IsOrthonormal
  tcp : t.tcp.IsOrthonormal

variable {t : Tool ℝ} {flange : Frame ℝ}

theorem localTcp?_real (t : Tool ℝ) : t.localTcp? = .ok t.localTcp := Frame.inSpace_real _

/-- Every tool stays in space on every flange. -/
theorem checkFlange_real (t : Tool ℝ) (flange : Frame ℝ) : t.checkFlange flange = .ok () :=
  bind_eq_ok.2 ⟨_, Frame.inSpace_real _, bind_eq_ok.2 ⟨_, Frame.inSpace_real _, rfl⟩⟩

theorem attachment_attachedTo (h : t.IsExact) (hflange : flange.IsOrthonormal) :
    (t.attachedTo flange).attachment = flange :=
  Frame.moved_between h.attachment hflange

theorem localTcp_attachedTo (h : t.IsExact) (hflange : flange.IsOrthonormal) :
    (t.attachedTo flange).localTcp = t.localTcp :=
  Frame.relativeTo_moved (Motion.between_isRigid h.attachment hflange) t.tcp h.attachment

/-- A tool on a flange, beside the tool. -/
structure IsMounted (t : Tool ℝ) (flange : Frame ℝ) (t' : Tool ℝ) : Prop where
  attachment_eq : t'.attachment = flange
  localTcp_eq : ∃ f, t.localTcp? = .ok f ∧ t'.localTcp? = .ok f
  position_eq : t'.localTcp.point = t.localTcp.point
  quaternion_eq : t'.localTcp.quaternion = t.localTcp.quaternion

/-- A mounted tool meets the flange and keeps its centre point. -/
theorem attachedTo_isMounted (h : t.IsExact) (hflange : flange.IsOrthonormal) :
    t.IsMounted flange (t.attachedTo flange) := by
  have hlocal := localTcp_attachedTo h hflange
  refine ⟨attachment_attachedTo h hflange, ⟨t.localTcp, localTcp?_real t, ?_⟩, ?_, ?_⟩
  · rw [localTcp?_real, hlocal]
  · rw [hlocal]
  · rw [hlocal]

end Tool

/-! ### The tool of a posture -/

namespace Robot

variable {r : Robot ℝ} {t : Tool ℝ}

theorem IsExact.withTool (h : r.IsExact) (ht : t.IsExact) : (r.withTool t).IsExact where
  joints := h.joints
  flange := h.flange
  attachment := ht.attachment
  toolTip := ht.tcp

theorem withTool?_real (r : Robot ℝ) (t : Tool ℝ) : r.withTool? t = .ok (r.withTool t) :=
  bind_eq_ok.2 ⟨_, Tool.checkFlange_real t r.flange, rfl⟩

/-- The flange where the change of the base and the turns of the six joints bring it. -/
noncomputable def posedFlange (r : Robot ℝ) (q : RobotJoints ℝ) (external : ExternalJoints ℝ) :
    Frame ℝ :=
  r.flange.moved (r.baseChange external
    * (r.armTurn (angle q Joint.first) (angle q Joint.second) (angle q Joint.third)
      * r.wristTurn (angle q Joint.fourth) (angle q Joint.fifth) (angle q Joint.sixth)))

/-- The tool centre point of a posture, seen from the flange. -/
theorem relativeTo_posedFlange (h : r.IsExact) (q : RobotJoints ℝ) (external : ExternalJoints ℝ)
    (hideMeshes : Bool) :
    (r.posture q external hideMeshes).tcp.relativeTo (r.posedFlange q external) =
      r.tool.localTcp := by
  have htool : r.tool.IsExact := ⟨h.attachment, h.toolTip⟩
  have hmotion := (baseChange_isRigid r external).mul (lastLink_isRigid h q)
  have hhome : r.tcp.relativeTo r.flange = r.tool.localTcp := by
    have hlocal := Tool.localTcp_attachedTo htool h.flange
    rwa [Tool.localTcp, Tool.attachment_attachedTo htool h.flange] at hlocal
  rw [posedFlange, ← lastLink_eq h, ← hhome]
  exact Frame.relativeTo_moved hmotion r.tcp h.flange

end Robot

/-! ### The pose that is written -/

theorem Frame.eq_of_inSpace {R : Type} [Scalar R] {f g : Frame R} (h : f.inSpace = .ok g) :
    g = f := by
  rw [inSpace] at h
  split at h
  · exact (Except.ok.inj h).symm
  · cases h

theorem Statement.text_toolPose (n : String) (tcp : Frame Float) :
    (toolPose n tcp).text = s!" PERS tooldata {n} := [TRUE, {poseCode tcp}," := by
  have hopen : " := [TRUE, [[" = " := [TRUE, " ++ "[[" := rfl
  have hclose : "]]," = "]]" ++ "," := rfl
  simp only [text, pieces, Piece.textOf, Piece.text, poseCode, toString, hopen, hclose,
    String.append_assoc, String.append_empty]

namespace SystemModule

/-- The line of a system module that has the pose of a tool: its centre point, seen from the frame
that it is attached with. -/
def poseLine (t : Tool Float) : String :=
  s!" PERS tooldata {t.name.display} := [TRUE, {poseCode t.localTcp},"

/-- The header has the pose of the standard tool. -/
theorem poseLine_standard_mem : poseLine .standard ∈ header := by
  decide +kernel

/-- **The pose that is written for a tool** is that of its centre point. -/
theorem poseLine_mem_declared {t : Tool Float} (h : t.IsWritable) :
    poseLine t ∈ t.declared.map Statement.text := by
  obtain ⟨tcp, htcp, hdeclared⟩ := h.exists_declared
  have heq : tcp = t.localTcp := Frame.eq_of_inSpace htcp
  rw [hdeclared, List.map_cons, Statement.text_toolPose, heq]
  exact List.mem_cons_self

/-- A system module has a line with the pose of each of its tools, and one for the standard tool. -/
theorem exists_poseLines (settings : Settings) {tools : List (Tool Float)}
    (h : ∀ t ∈ tools, t.IsWritable) : ∃ lines, text settings tools = .ok (joinLines settings lines) ∧
      ∀ t ∈ Tool.standard :: tools, poseLine t ∈ lines := by
  refine ⟨_, text_eq_ok_iff.2 ⟨h, rfl⟩, fun t ht => ?_⟩
  rcases List.mem_cons.1 ht with rfl | hmem
  · exact List.mem_append_left _ (List.mem_append_left _ poseLine_standard_mem)
  · obtain ⟨line, hline, heq⟩ := List.mem_map.1 (poseLine_mem_declared (h t hmem))
    refine List.mem_append_left _ (List.mem_append_right _ ?_)
    exact List.mem_map.2 ⟨line, List.mem_flatMap.2 ⟨t, hmem, hline⟩, heq⟩

end SystemModule

/-! ### Data that are written and used -/

namespace Robot

/-- A robot that uses a tool by its centre point, seen from the frame that it is attached with. -/
structure UsesTool (r : Robot ℝ) (t : Tool ℝ) : Prop where
  mounted : ∀ flange : Frame ℝ, flange.IsOrthonormal →
    t.checkFlange flange = .ok () ∧ t.IsMounted flange (t.attachedTo flange)
  posed : ∃ r', r.withTool? t = .ok r' ∧ ∀ q external hideMeshes, ∃ p,
    r'.pose q external hideMeshes = .ok p ∧
      p.tcp.relativeTo? (r.posedFlange q external) = .ok t.localTcp

/-- **The tool data that are written are those that are used.**  A robot uses every tool by the same
centre point that a system module writes for its tools: both are `Tool.localTcp`, over the real
numbers and over doubles. -/
theorem usesWritten {r : Robot ℝ} {t : Tool ℝ} (h : r.IsExact) (ht : t.IsExact) :
    r.UsesTool t ∧ ∀ (settings : Settings) (tools : List (Tool Float)),
      (∀ t ∈ tools, t.IsWritable) → ∃ lines,
        SystemModule.text settings tools = .ok (joinLines settings lines) ∧
          ∀ t ∈ Tool.standard :: tools, SystemModule.poseLine t ∈ lines := by
  refine ⟨⟨fun flange hflange => ?_, r.withTool t, withTool?_real r t,
    fun q external hideMeshes => ?_⟩, fun settings tools => SystemModule.exists_poseLines settings⟩
  · exact ⟨Tool.checkFlange_real t flange, Tool.attachedTo_isMounted ht hflange⟩
  · refine ⟨_, pose_real _ q external hideMeshes, ?_⟩
    rw [Frame.relativeTo?, Frame.inSpace_real]
    exact congrArg Except.ok (relativeTo_posedFlange (h.withTool ht) q external hideMeshes)

/-- A gripper that is modelled off the origin and turned, in exact arithmetic and over doubles. -/
def sideGripper {R : Type} [Scalar R] : Tool R where
  name := "side_gripper"
  attachment := ⟨⟨0.0, 10.0, 0.0⟩, .unitY, ⟨-1.0, 0.0, 0.0⟩⟩
  tcp := ⟨⟨3.0, 10.0, 80.0⟩, .unitZ, .unitX⟩
  mesh := ⟨[⟨0.0, 10.0, 0.0⟩, ⟨3.0, 10.0, 80.0⟩]⟩
  mass := .whole 2
  named := by decide
  heavy := by rintro (h | h) <;> cases h

theorem sideGripper_isExact : (sideGripper : Tool ℝ).IsExact where
  attachment := by constructor <;> simp [sideGripper, Vec.unitY_eq, Vec.dot_eq]
  tcp := by constructor <;> simp [sideGripper, Vec.unitX_eq, Vec.unitZ_eq, Vec.dot_eq]

theorem sideGripper_isWritable : (sideGripper : Tool Float).IsWritable :=
  ⟨exists_ok_of_toBool (by decide +kernel), exists_ok_of_toBool (by decide +kernel)⟩

theorem usesWritten_sideGripper :
    equippedArm.IsExact ∧ (sideGripper : Tool ℝ).IsExact ∧ (sideGripper : Tool Float).IsWritable ∧
      equippedArm.UsesTool sideGripper ∧ ∃ lines,
        SystemModule.text .usual [sideGripper] = .ok (joinLines .usual lines) ∧
          ∀ t ∈ [Tool.standard, sideGripper], SystemModule.poseLine t ∈ lines := by
  obtain ⟨hused, hwritten⟩ := usesWritten equippedArm_isExact sideGripper_isExact
  refine ⟨equippedArm_isExact, sideGripper_isExact, sideGripper_isWritable, hused, ?_⟩
  refine hwritten .usual [sideGripper] fun t ht => ?_
  rw [List.mem_singleton.1 ht]
  exact sideGripper_isWritable

end Robot

end SixAxis
