import SixAxis.Proofs.MovedAxes

/-!
# Shapes of a posed robot in exact arithmetic

A robot has eight shapes: one of its base, one for each of its six links, and one of its tool.  The
base moves with the axis that carries the robot alone.  The link behind a joint moves with that
joint, so its corners keep their coordinates in the frame of the joint, and those of the tool keep
theirs in the tool centre point.

* `Frame.coordinates` — a point seen from a frame;
* `Mesh.seenFrom_moved` — **what moves together keeps its coordinates**;
* `isRigid_of_mem_chainFrom` — every link of a chain moves rigidly;
* `Robot.pose_carriesShapes` — **the shapes ride on the right links**, and hiding them changes
  nothing else.
-/

namespace SixAxis

variable {m : Motion ℝ}

/-! ### Coordinates in a frame -/

/-- A point seen from a frame: how far it is along each of the three directions. -/
noncomputable def Frame.coordinates (f : Frame ℝ) (p : Vec ℝ) : Vec ℝ :=
  ⟨f.xaxis.dot (p - f.point), f.yaxis.dot (p - f.point), f.zaxis.dot (p - f.point)⟩

/-- The corners of a shape, seen from a frame. -/
noncomputable def Mesh.seenFrom (mesh : Mesh ℝ) (f : Frame ℝ) : List (Vec ℝ) :=
  mesh.vertices.map f.coordinates

theorem Frame.coordinates_moved (hm : m.IsRigid) (f : Frame ℝ) (p : Vec ℝ) :
    (f.moved m).coordinates (m.apply p) = f.coordinates p := by
  have hoffset : m.apply p - (f.moved m).point = m.linear (p - f.point) :=
    Motion.apply_sub_apply m p f.point
  have hx : (f.moved m).xaxis = m.linear f.xaxis := rfl
  have hy : (f.moved m).yaxis = m.linear f.yaxis := rfl
  rw [coordinates, hoffset, hx, hy, zaxis_moved hm, hm.dot_linear, hm.dot_linear, hm.dot_linear,
    coordinates]

/-- **What moves together keeps its coordinates.** -/
theorem Mesh.seenFrom_moved (hm : m.IsRigid) (mesh : Mesh ℝ) (f : Frame ℝ) :
    (mesh.moved m).seenFrom (f.moved m) = mesh.seenFrom f := by
  rw [seenFrom, Mesh.moved_eq, List.map_map, seenFrom]
  exact List.map_congr_left fun p _ => Frame.coordinates_moved hm f p

/-! ### Rigid motions and links -/

theorem Motion.between_isRigid {start goal : Frame ℝ} (hstart : start.IsOrthonormal)
    (hgoal : goal.IsOrthonormal) : (between start goal).IsRigid :=
  hgoal.toMotion_isRigid.mul hstart.toMotion_isRigid.inverse

theorem length_chainFrom (m : Motion ℝ) (l : List (Frame ℝ × ℝ)) :
    (chainFrom m l).length = l.length := by
  induction l generalizing m with
  | nil => rfl
  | cons x rest ih => exact congrArg Nat.succ (ih _)

/-- Every link behind a part of a chain that has moved rigidly moves rigidly. -/
theorem isRigid_of_mem_chainFrom (hm : m.IsRigid) {l : List (Frame ℝ × ℝ)}
    (h : ∀ x ∈ l, x.1.IsOrthonormal) : ∀ link ∈ chainFrom m l, link.IsRigid := by
  induction l generalizing m with
  | nil => exact fun link hlink => nomatch hlink
  | cons x rest ih =>
    have hx := (h x List.mem_cons_self).moved hm
    have hnext := (turnAbout_isRigid hx x.2).mul hm
    intro link hlink
    rcases List.mem_cons.1 hlink with rfl | hrest
    · exact hnext
    · exact ih hnext (fun y hy => h y (List.mem_cons_of_mem _ hy)) link hrest

namespace Robot

variable {r : Robot ℝ} {q : RobotJoints ℝ} {external : ExternalJoints ℝ}

theorem length_links (r : Robot ℝ) (q : RobotJoints ℝ) : (r.links q).length = 6 := by
  rw [links, chain, length_chainFrom, List.length_zip, Vector.length_toList, Joints.toList,
    Vector.length_toList, min_self]

/-- Each joint has a link behind it, which moves rigidly. -/
theorem exists_link (h : r.IsExact) (q : RobotJoints ℝ) (k : Joint) :
    ∃ link, (r.links q)[k.val]? = some link ∧ link.IsRigid := by
  have hk : k.val < (r.links q).length := by
    rw [length_links]
    exact k.isLt
  exact ⟨_, List.getElem?_eq_getElem hk, isRigid_of_mem_chainFrom Motion.IsRigid.one
    (isOrthonormal_of_mem_zip h q) _ (List.getElem_mem hk)⟩

/-! ### The shapes of a posture -/

section Posture

variable {k : Joint} {link : Motion ℝ}

theorem jointFrame_posture (hlink : (r.links q)[k.val]? = some link) :
    (r.posture q external).jointFrames[k.val]? =
      some ((r.jointFrames.get k).moved (r.baseChange external * link)) := by
  have hframe : r.jointFrames.toList[k.val]? = some (r.jointFrames.get k) := by
    rw [Vector.getElem?_toList]
    exact Vector.getElem?_eq_getElem k.isLt
  show (r.jointFrames.toList.zipWith _ (r.links q))[k.val]? = _
  rw [List.getElem?_zipWith, hframe, hlink]

theorem length_linkMeshes_zipWith (f : Mesh ℝ → Motion ℝ → Mesh ℝ) :
    (r.linkMeshes.toList.tail.zipWith f (r.links q)).length = 6 := by
  rw [List.length_zipWith, List.length_tail, Vector.length_toList, length_links]
  rfl

theorem length_meshes_posture : (r.posture q external).meshes.length = 8 := by
  show (_ :: (_ ++ [_])).length = 8
  rw [List.length_cons, List.length_append, length_linkMeshes_zipWith]
  rfl

theorem linkMesh_posture (hlink : (r.links q)[k.val]? = some link) :
    (r.posture q external).meshes[k.val + 1]? =
      some (r.linkMeshes[k.val + 1].moved (r.baseChange external * link)) := by
  have hmesh : r.linkMeshes.toList.tail[k.val]? = some r.linkMeshes[k.val + 1] := by
    rw [List.getElem?_tail, Vector.getElem?_toList]
    exact Vector.getElem?_eq_getElem (Nat.succ_lt_succ k.isLt)
  -- the base stands in front of the links, and the tool behind them
  show (_ :: (_ ++ [_]))[k.val + 1]? = _
  rw [List.getElem?_cons_succ, List.getElem?_append_left, List.getElem?_zipWith, hmesh, hlink]
  rw [length_linkMeshes_zipWith]
  exact k.isLt

theorem toolMesh_posture : (r.posture q external).meshes[7]? =
    some (r.toolMesh.moved (r.baseChange external * r.lastLink q)) := by
  show (_ :: (_ ++ [_]))[6 + 1]? = _
  rw [List.getElem?_cons_succ, List.getElem?_append_right, length_linkMeshes_zipWith]
  · rfl
  · rw [length_linkMeshes_zipWith]

end Posture

/-- The shape of a tool on the flange is seen from its centre point as in the space of the tool. -/
theorem seenFrom_toolMesh (h : r.IsExact) :
    r.toolMesh.seenFrom r.tcp = r.tool.mesh.seenFrom r.tool.tcp :=
  Mesh.seenFrom_moved (Motion.between_isRigid h.attachment h.flange) _ _

/-- A posture whose shapes ride on the parts of a robot. -/
structure CarriesShapes (r : Robot ℝ) (q : RobotJoints ℝ) (external : ExternalJoints ℝ)
    (p : Posture ℝ) : Prop where
  length_eq : p.meshes.length = 8
  /-- The base is moved by the change of the base alone. -/
  base : p.meshes[0]? = some (r.linkMeshes[0].moved (r.baseChange external))
  /-- Each corner of a link is seen from the frame of its joint as at home. -/
  link : ∀ k : Joint, ∃ mesh frame, p.meshes[k.val + 1]? = some mesh ∧
    p.jointFrames[k.val]? = some frame ∧
    mesh.seenFrom frame = r.linkMeshes[k.val + 1].seenFrom (r.jointFrames.get k)
  /-- Each corner of the tool is seen from the tool centre point as at home, and as in the space that
  the tool is modelled in. -/
  tool : ∃ mesh, p.meshes[7]? = some mesh ∧ mesh.seenFrom p.tcp = r.toolMesh.seenFrom r.tcp ∧
    mesh.seenFrom p.tcp = r.tool.mesh.seenFrom r.tool.tcp
  /-- The fixed part of each external axis stays, and the moving one moves by its own motion. -/
  axes : p.axisMeshes = r.axes.map fun a => (a.axis.baseMesh,
    a.axis.linkMesh.moved (a.axis.motionAt
      (if external.isDefined a.slot then external.get a.slot else 0)))

theorem posture_carriesShapes (h : r.IsExact) (q : RobotJoints ℝ) (external : ExternalJoints ℝ) :
    r.CarriesShapes q external (r.posture q external) where
  length_eq := length_meshes_posture
  base := rfl
  link k := by
    obtain ⟨link, hlink, hrigid⟩ := exists_link h q k
    exact ⟨_, _, linkMesh_posture hlink, jointFrame_posture hlink,
      Mesh.seenFrom_moved ((baseChange_isRigid r external).mul hrigid) _ _⟩
  tool := by
    have htool : (r.toolMesh.moved (r.baseChange external * r.lastLink q)).seenFrom
        (r.posture q external).tcp = r.toolMesh.seenFrom r.tcp :=
      Mesh.seenFrom_moved ((baseChange_isRigid r external).mul (lastLink_isRigid h q)) _ _
    exact ⟨_, toolMesh_posture, htool, htool.trans (seenFrom_toolMesh h)⟩
  axes := by
    have hzero : (0.0 : ℝ) = 0 := by norm_num
    show r.axes.map _ = _
    simp only [ExternalAxis.meshesAt, Joints.valueOrZero, hzero]

/-- **The shapes ride on the right links.**  Hiding them changes no frame, no flag and no
report. -/
theorem pose_carriesShapes (h : r.IsExact) (q : RobotJoints ℝ) (external : ExternalJoints ℝ) :
    ∃ p, r.pose q external false = .ok p ∧ r.CarriesShapes q external p ∧
      r.pose q external true = .ok { p with meshes := [], axisMeshes := [] } :=
  ⟨_, pose_real r q external false, posture_carriesShapes h q external,
    pose_real r q external true⟩

/-! ### An arm with shapes -/

/-- A torch that is modelled off the origin, and bent. -/
noncomputable def bentTorch : Tool ℝ where
  name := "bent torch"
  attachment := levelFrame ⟨5.0, 0, 0⟩
  tcp := ⟨⟨25.0, 0, 10.0⟩, ⟨0.6, 0, 0.8⟩, ⟨0, 1, 0⟩⟩
  mesh := ⟨[⟨5.0, 0, 0⟩, ⟨20.0, 0, 0⟩, ⟨25.0, 0, 10.0⟩]⟩
  mass := .whole 2
  named := by decide
  heavy := by rintro (h | h) <;> cases h

/-- The small arm with a torch, on a track that climbs and beside a leaning turntable, each part
with a shape. -/
noncomputable def equippedArm : Robot ℝ :=
  { smallArm with
    linkMeshes := #v[⟨[⟨0, 0, -5.0⟩, ⟨5.0, 0, -5.0⟩]⟩, ⟨[⟨10.0, 3.0, 0⟩]⟩, ⟨[⟨33.0, 2.0, 20.0⟩]⟩,
      ⟨[⟨36.0, 0, 43.0⟩]⟩, ⟨[⟨50.0, -2.0, 40.0⟩]⟩, ⟨[⟨66.0, 1, 40.0⟩]⟩, ⟨[⟨70.0, 0, 42.0⟩]⟩]
    tool := bentTorch
    axes := [⟨ExternalAxis.climbingTrack, Joint.first⟩, ⟨ExternalAxis.leaningTable, Joint.second⟩]
    slots_nodup := by simp }

theorem equippedArm_isExact : equippedArm.IsExact where
  joints := smallArm_isExact.joints
  flange := smallArm_isExact.flange
  attachment := isOrthonormal_levelFrame _
  toolTip := by constructor <;> norm_num [equippedArm, bentTorch, Vec.dot_eq]

/-- The arm with all joints turned, up on the track; the turntable has no value. -/
theorem pose_carriesShapes_equippedArm :
    equippedArm.IsExact ∧ ∃ p,
      equippedArm.pose (.ofValues [90, -30, 45, 170, 60, -120]) (.ofValues [40]) false = .ok p ∧
      equippedArm.CarriesShapes (.ofValues [90, -30, 45, 170, 60, -120]) (.ofValues [40]) p ∧
      equippedArm.pose (.ofValues [90, -30, 45, 170, 60, -120]) (.ofValues [40]) true =
        .ok { p with meshes := [], axisMeshes := [] } :=
  ⟨equippedArm_isExact, pose_carriesShapes equippedArm_isExact _ _⟩

end Robot

end SixAxis
