import SixAxis.Proofs.AxisNumbering
import SixAxis.Proofs.TrackValues

/-!
# External axes elsewhere in exact arithmetic

An axis is put elsewhere with both of its frames and both of its shapes.  Its motion at a value is
then that of the axis, seen from where it stands now: a shift along the direction that was turned,
or a turn about the line that was moved.  So whatever an axis does comes out moved along, and the
value that suits a point suits the point that moves along.

* `ExternalAxis.motionAt_moved` — the motion of a moved axis is the conjugated one;
* `ExternalAxis.frameAt_moved`, `ExternalAxis.meshesAt_moved` — what it carries moves along;
* `ExternalAxis.closest_moved` — the closest value stays;
* `ExternalAxis.moved_operation` — **moving an axis commutes with operating it**.
-/

namespace SixAxis

variable {m : Motion ℝ}

/-- A shift carried along by a motion. -/
theorem Motion.displacement_conjugate (hm : m.IsRigid) (v : Vec ℝ) :
    displacement (m.linear v) = conjugate m (displacement v) := by
  have hcarried : displacement (m.linear v) * m = m * displacement v := by
    refine ext_apply fun p => ?_
    rw [mul_apply, mul_apply, displacement_apply, displacement_apply, apply_eq, apply_eq,
      linear_add]
    ext <;> simp <;> ring
  exact (hm.mul_inverse_eq_iff.2 hcarried.symm).symm

/-- A motion and the one that undoes it leave a shape where it was. -/
theorem Mesh.moved_inverse (hm : m.IsRigid) (mesh : Mesh ℝ) :
    (mesh.moved m).moved m.inverse = mesh := by
  rw [Mesh.moved_moved, hm.inverse_mul, Mesh.moved_one]

theorem Frame.moved_inverse (hm : m.IsRigid) (f : Frame ℝ) : (f.moved m).moved m.inverse = f := by
  rw [Frame.moved_moved, hm.inverse_mul, Frame.moved_one]

namespace ExternalAxis

variable {a : ExternalAxis ℝ}

/-! ### Motion, frame, shapes and values -/

/-- The motion of a moved axis is the conjugated one. -/
theorem motionAt_moved (h : a.IsExact) (hm : m.IsRigid) (v : ℝ) :
    (a.moved m).motionAt v = Motion.conjugate m (a.motionAt v) := by
  have hkind : (a.moved m).motion = a.motion := rfl
  have haxis : (a.moved m).axis = a.axis.moved m := rfl
  rw [motionAt, motionAt, hkind, haxis, Frame.zaxis_moved hm]
  cases a.motion with
  | linear => rw [← Motion.linear_scale, Motion.displacement_conjugate hm]
  | rotational => exact Motion.rotation_conjugate hm h.axis.zaxis_unit _ _

theorem frameAt_moved (h : a.IsExact) (hm : m.IsRigid) (v : ℝ) :
    (a.moved m).frameAt v = (a.frameAt v).moved m := by
  have hattachment : (a.moved m).attachment = a.attachment.moved m := rfl
  rw [frameAt, frameAt, motionAt_moved h hm, hattachment, Frame.moved_moved,
    Motion.conjugate_mul_move hm, Frame.moved_moved]

theorem meshesAt_moved (h : a.IsExact) (hm : m.IsRigid) (v : ℝ) :
    (a.moved m).meshesAt v = ((a.meshesAt v).1.moved m, (a.meshesAt v).2.moved m) := by
  have hlink : ((a.linkMesh.moved m).moved (Motion.conjugate m (a.motionAt v))) =
      (a.linkMesh.moved (a.motionAt v)).moved m := by
    rw [Mesh.moved_moved, Motion.conjugate_mul_move hm, Mesh.moved_moved]
  rw [meshesAt, meshesAt, motionAt_moved h hm]
  exact congrArg (Prod.mk _) hlink

/-- Points that move along are abreast of the same value. -/
theorem abreast_moved (hm : m.IsRigid) (a : ExternalAxis ℝ) (p : Vec ℝ) :
    (a.moved m).abreast (m.apply p) = a.abreast p := by
  have haxis : (a.moved m).axis = a.axis.moved m := rfl
  have hattachment : (a.moved m).attachment = a.attachment.moved m := rfl
  rw [abreast, abreast, haxis, hattachment, Frame.zaxis_moved hm, Frame.point_moved,
    Motion.apply_sub_apply, hm.dot_linear]

theorem closest_moved (hm : m.IsRigid) (a : ExternalAxis ℝ) (p : Vec ℝ) :
    (a.moved m).closest (m.apply p) = a.closest p :=
  congrArg (fun v => (a.limits.clamp (.real v)).value) (abreast_moved hm a p)

/-! ### The moved axis -/

theorem IsExact.moved (h : a.IsExact) (hm : m.IsRigid) : (a.moved m).IsExact where
  attachment := h.attachment.moved hm
  axis := h.axis.moved hm

theorem moved?_eq (h : a.IsExact) (hm : m.IsRigid) : a.moved? m = .ok (a.moved m) := by
  rw [moved?, h.attachment.moved?_eq hm, h.axis.moved?_eq hm]
  rfl

theorem moved_inverse (hm : m.IsRigid) (a : ExternalAxis ℝ) : (a.moved m).moved m.inverse = a := by
  simp only [moved, Frame.moved_inverse hm, Mesh.moved_inverse hm]

/-- An axis that stands elsewhere, beside the axis. -/
structure IsMoved (a : ExternalAxis ℝ) (m : Motion ℝ) (a' : ExternalAxis ℝ) : Prop where
  frame_eq : ∀ v, ∃ f, a.frameAt? v = .ok f ∧ a'.frameAt? v = .ok (f.moved m)
  /-- The flag of a value tells whether it is within the limits. -/
  flag_eq : ∀ v, a'.limits.contains v = a.limits.contains v
  motion_eq : ∀ v, ∃ g, a.motionAt? v = .ok g ∧ a'.motionAt? v = .ok (m * g * m.inverse)
  meshes_eq : ∀ v, a'.meshesAt v = ((a.meshesAt v).1.moved m, (a.meshesAt v).2.moved m)
  closest_eq : a.motion = .linear → ∀ p, a'.closest (m.apply p) = a.closest p
  /-- Nothing else differs. -/
  rest_eq : a' = { a with
    attachment := a'.attachment
    axis := a'.axis
    baseMesh := a'.baseMesh
    linkMesh := a'.linkMesh }
  /-- Nothing of the axis is lost: moved back it is what it was. -/
  back_eq : a'.moved? m.inverse = .ok a

/-- **Moving an axis commutes with operating it.** -/
theorem moved_operation (h : a.IsExact) (hm : m.IsRigid) :
    ∃ a', a.moved? m = .ok a' ∧ a.IsMoved m a' := by
  refine ⟨a.moved m, moved?_eq h hm, ?_⟩
  constructor
  case frame_eq =>
    intro v
    refine ⟨_, frameAt?_eq h v, ?_⟩
    rw [frameAt?_eq (h.moved hm), frameAt_moved h hm]
  case flag_eq => exact fun v => rfl
  case motion_eq =>
    intro v
    refine ⟨_, motionAt?_real a v, ?_⟩
    rw [motionAt?_real, motionAt_moved h hm, Motion.conjugate]
  case meshes_eq => exact fun v => meshesAt_moved h hm v
  case closest_eq => exact fun _ p => closest_moved hm a p
  case rest_eq => rfl
  case back_eq => rw [moved?_eq (h.moved hm) hm.inverse, moved_inverse hm]

/-- A turntable whose table is not centred on the line that it turns about, which leans. -/
noncomputable def leaningTable : ExternalAxis ℝ where
  name := "leaning table"
  motion := .rotational
  attachment := Robot.uprightFrame ⟨90.0, 10.0, 0⟩
  axis := ⟨⟨80.0, 0, 0⟩, ⟨0.8, 0, -0.6⟩, ⟨0, 1, 0⟩⟩
  limits := ⟨.real (-180.0), .whole 180, by
    rw [Numeral.lt_iff_value]
    norm_num [Numeral.value, Scalar.ofInt]⟩
  baseMesh := ⟨[⟨80.0, 0, -40.0⟩]⟩
  linkMesh := ⟨[⟨95.0, 15.0, 0⟩, ⟨95.0, 5.0, 0⟩]⟩
  carriesRobot := false
  number := none
  named := by decide
  carrier_linear := Robot.linear_of_not_carrying

theorem leaningTable_isExact : leaningTable.IsExact where
  attachment := Robot.isOrthonormal_uprightFrame _
  axis := by constructor <;> norm_num [leaningTable, Vec.dot_eq]

theorem moved_operation_leaningTable :
    leaningTable.IsExact ∧ Robot.ontoWall.IsRigid ∧
      ∃ a', leaningTable.moved? Robot.ontoWall = .ok a' ∧
        leaningTable.IsMoved Robot.ontoWall a' :=
  ⟨leaningTable_isExact, Robot.ontoWall_isRigid,
    moved_operation leaningTable_isExact Robot.ontoWall_isRigid⟩

end ExternalAxis

end SixAxis
