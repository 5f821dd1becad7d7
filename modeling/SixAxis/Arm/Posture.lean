import SixAxis.Arm.Limits

/-!
# Postures

Where the parts of a robot are for given joint values.  Each joint turns about the third
direction of its frame after that frame has been carried along by the joints before it;
composing the turns, joint one innermost, gives the motion of every link.  The axis that carries
the robot moves all of it.

* `chain` — the motions of the links of a serial chain;
* `Robot.posture` — the tool centre point, the joint frames and, unless hidden, the shapes, with
  the limits checked;
* `Robot.pose` — the same for values that keep the robot in space, a fault for others.
-/

namespace SixAxis

variable {R : Type} [Scalar R]

/-- The turn of a joint frame about its third direction. -/
def turnAbout (f : Frame R) (degrees : R) : Motion R :=
  Motion.rotation f.zaxis (Scalar.radians degrees) f.point

/-- The motions of the links behind a part of a chain that `composed` has moved. -/
def chainFrom (composed : Motion R) : List (Frame R × R) → List (Motion R)
  | [] => []
  | (frame, value) :: rest =>
    let next := turnAbout (frame.moved composed) value * composed
    next :: chainFrom next rest

/-- The motions of the links of a serial chain: one for each joint that has both a frame and a
value in degrees. -/
def chain (frames : List (Frame R)) (values : List R) : List (Motion R) :=
  chainFrom .identity (frames.zip values)

/-- Whether the frames of a chain stay in space when it is moved, and its values are angles. -/
def checkChainFrom (composed : Motion R) : List (Frame R × R) → Checked Unit
  | [] => .ok ()
  | (frame, value) :: rest => do
    let _ ← frame.moved? composed
    checkAngle value
    checkChainFrom (turnAbout (frame.moved composed) value * composed) rest

/-- The motions of the links of a serial chain that stays in space. -/
def chain? (frames : List (Frame R)) (values : List R) : Checked (List (Motion R)) := do
  checkChainFrom .identity (frames.zip values)
  return chain frames values

/-- A robot with given joint values. -/
structure Posture (R : Type) where
  tcp : Frame R
  jointFrames : List (Frame R)
  /-- The base, the links and the tool; empty if the shapes are hidden. -/
  meshes : List (Mesh R)
  /-- The fixed and the moving part of each external axis; empty if the shapes are hidden. -/
  axisMeshes : List (Mesh R × Mesh R)
  internalFlags : Vector Bool 6
  externalFlags : Vector Bool 6
  reports : List Report

namespace Posture

/-- Whether all values are within the limits. -/
def inLimits (p : Posture R) : Bool :=
  p.internalFlags.toList.all id && p.externalFlags.toList.all id

end Posture

namespace Robot

/-- The motions of the six links of an arm that is not carried. -/
def links (r : Robot R) (joints : RobotJoints R) : List (Motion R) :=
  chain r.jointFrames.toList joints.toList

/-- The motion of the last link. -/
def lastLink (r : Robot R) (joints : RobotJoints R) : Motion R :=
  (r.links joints).getLast?.getD .identity

/-- The robot with the given joint values. -/
def posture (r : Robot R) (joints : RobotJoints R) (external : ExternalJoints R)
    (hideMeshes : Bool := false) : Posture R :=
  let base := r.baseChange external
  let links := r.links joints
  let last := base * r.lastLink joints
  let misfits := r.misfits external true
  let flags := r.internalFlags joints
  { tcp := r.tcp.moved last
    jointFrames := r.jointFrames.toList.zipWith (fun f link => f.moved (base * link)) links
    meshes :=
      if hideMeshes then []
      else r.linkMeshes[0].moved base
        :: (r.linkMeshes.toList.tail.zipWith (fun mesh link => mesh.moved (base * link)) links
          ++ [r.toolMesh.moved last])
    axisMeshes :=
      if hideMeshes then []
      else r.axes.map fun a => a.axis.meshesAt (external.valueOrZero a.slot)
    internalFlags := flags
    externalFlags := externalFlags misfits
    reports := internalReports flags ++ externalReports misfits }

/-- The robot with the given joint values, if they keep it in space and its angles are finite. -/
def pose (r : Robot R) (joints : RobotJoints R) (external : ExternalJoints R)
    (hideMeshes : Bool := false) : Checked (Posture R) := do
  unless hideMeshes do
    for a in r.axes do
      if a.axis.motion = .rotational then checkAngle (external.valueOrZero a.slot)
  let _ ← chain? r.jointFrames.toList joints.toList
  let p := r.posture joints external hideMeshes
  for f in p.tcp :: p.jointFrames do
    let _ ← f.inSpace
  return p

end Robot

end SixAxis
