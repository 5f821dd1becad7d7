import SixAxis.Arm.Joint
import SixAxis.Arm.Numbering
import SixAxis.Arm.Tool
import SixAxis.Joints.Basic

/-!
# Robots

A robot is the geometry of an arm with six joints at home — all joint values zero, all axes at
zero — with a tool on its flange and external axes beside it.  Everything that moves with the
tool is computed from the tool and the flange, so that a robot with another tool is a change of
one field.

No two axes of a robot are in the same slot; that is part of the type.

* `Robot.assemble` — a robot from parts that may not fit together;
* `Robot.baseChange` — the motion of the base by the axis that carries the robot;
* `Robot.moved`, `Robot.withTool` — the robot elsewhere, and with another tool.
-/

namespace SixAxis

/-- Joints of an arm. -/
def jointCount : Nat := 6

/-- Shapes of an arm: its base and six links. -/
def linkMeshCount : Nat := 7

/-- External axes that a robot can have. -/
def mostAxes : Nat := 6

/-- A robot arm at home, with a tool and external axes. -/
structure Robot (R : Type) [Scalar R] where
  name : Datum
  manufacturer : Datum
  base : Frame R
  /-- The frames whose third directions the joints turn about. -/
  jointFrames : Vector (Frame R) 6
  jointLimits : Vector (Interval R) 6
  /-- The flange. -/
  flange : Frame R
  /-- The base and the six links. -/
  linkMeshes : Vector (Mesh R) 7
  tool : Tool R
  axes : List (AttachedAxis R)
  slots_nodup : (axes.map (·.slot)).Nodup

namespace Robot

variable {R : Type} [Scalar R]

/-- The tool centre point at home. -/
def tcp (r : Robot R) : Frame R := (r.tool.attachedTo r.flange).tcp

/-- The shape of the tool at home. -/
def toolMesh (r : Robot R) : Mesh R := (r.tool.attachedTo r.flange).mesh

/-- The base, the links and the tool at home. -/
def meshes (r : Robot R) : List (Mesh R) := r.linkMeshes.toList ++ [r.toolMesh]

/-- The axis that carries the robot. -/
def carrier (r : Robot R) : Option (AttachedAxis R) := r.axes.find? (·.axis.carriesRobot)

/-- The axis of a number. -/
def axisNumbered (r : Robot R) (n : Datum) : Option (AttachedAxis R) :=
  r.axes.find? fun a => n.same (.int a.slot.val)

/-- The first axis of a name. -/
def axisNamed (r : Robot R) (name : Datum) : Option (AttachedAxis R) :=
  r.axes.find? (·.axis.name.same name)

/-- Whether an axis of this name is attached. -/
def isAttached (r : Robot R) (a : ExternalAxis R) : Bool :=
  r.axes.any (·.axis.name.same a.name)

/-- The names of the attached axes. -/
def axisNames (r : Robot R) : List Datum := r.axes.map (·.axis.name)

/-- The motion of the base by the axis that carries the robot; without a value, that axis is at
zero. -/
def baseChange (r : Robot R) (external : ExternalJoints R) : Motion R :=
  match r.carrier with
  | none => .identity
  | some a => a.axis.motionAt (external.valueOrZero a.slot)

/-- The robot moved in space; its external axes stay where they are. -/
def moved (r : Robot R) (m : Motion R) : Robot R :=
  { r with
    base := r.base.moved m
    jointFrames := r.jointFrames.map (·.moved m)
    flange := r.flange.moved m
    linkMeshes := r.linkMeshes.map (·.moved m) }

/-- The robot with another tool. -/
def withTool (r : Robot R) (tool : Tool R) : Robot R := { r with tool := tool }

/-- A robot whose tool stays in space on its flange. -/
def inSpace (r : Robot R) : Checked (Robot R) := do
  r.tool.checkFlange r.flange
  return r

/-- The robot with another tool, if that stays in space. -/
def withTool? (r : Robot R) (tool : Tool R) : Checked (Robot R) := (r.withTool tool).inSpace

/-- The robot moved by a motion that keeps its frames in space. -/
def moved? (r : Robot R) (m : Motion R) : Checked (Robot R) := do
  let moved := r.moved m
  for f in r.jointFrames.toList do
    let _ ← f.moved? m
  inSpace { moved with
    base := ← r.base.moved? m
    jointFrames := r.jointFrames.map (·.carried m)
    flange := ← r.flange.moved? m
    slots_nodup := r.slots_nodup }

/-- The parts that a robot is assembled from. -/
structure Parts (R : Type) [Scalar R] where
  name : Datum
  manufacturer : Datum
  base : Frame R
  jointFrames : List (Frame R)
  jointLimits : List (Interval R)
  /-- The last joint frame where it is not given. -/
  flange : Option (Frame R)
  linkMeshes : Option (List (Mesh R))
  tool : Tool R
  axes : List (ExternalAxis R)

/-- The fault of external axes that cannot be attached together, if there is one. -/
def axesFault (name : Datum) (axes : List (ExternalAxis R)) : Option RobotFault :=
  let carriers := axes.filter (·.carriesRobot)
  if mostAxes < axes.length then some (.axisCount name mostAxes axes.length)
  else if 1 < carriers.length then some (.carrierCount name (carriers.map (·.name)))
  else if carriers.any (·.motion != .linear) then some (.carrierNotLinear name)
  else (firstRepeated [] axes).map fun (a, n) =>
    .repeatedNumber name (.number n.toNumber) a.name

theorem axesFault_nodup {name : Datum} {axes : List (ExternalAxis R)}
    (h : axesFault name axes = none) : ((assignSlots axes).map (·.slot)).Nodup := by
  simp only [axesFault] at h
  split at h
  · cases h
  · split at h
    · cases h
    · split at h
      · cases h
      · exact assignSlots_nodup (askedSlots_nodup_of_firstRepeated (Option.map_eq_none_iff.1 h)).1

/-- A robot from its parts: six joints with limits, seven shapes, and axes that can be attached
together. -/
def assemble (p : Parts R) : Checked (Robot R) :=
  let meshes := p.linkMeshes.getD (List.replicate linkMeshCount .empty)
  if frames : p.jointFrames.length = 6 then
    if limits : p.jointLimits.length = 6 then
      if shapes : meshes.length = 7 then
        match fault : axesFault p.name p.axes with
        | some f => .error f
        | none =>
          let jointFrames : Vector (Frame R) 6 :=
            ⟨(p.jointFrames.map (·.copied)).toArray, by simpa using frames⟩
          inSpace
            { name := p.name
              manufacturer := p.manufacturer
              base := p.base.copied
              jointFrames := jointFrames
              jointLimits := ⟨p.jointLimits.toArray, by simpa using limits⟩
              flange := (p.flange.map (·.copied)).getD (jointFrames.get Joint.sixth)
              linkMeshes := ⟨meshes.toArray, by simpa using shapes⟩
              tool := p.tool
              axes := assignSlots p.axes
              slots_nodup := axesFault_nodup fault }
      else .error (RobotFault.meshCount p.name linkMeshCount meshes.length)
    else .error (RobotFault.jointLimitCount p.name jointCount p.jointLimits.length)
  else .error (RobotFault.jointFrameCount p.name jointCount p.jointFrames.length)

/-- The robot as an expression. -/
def expression (r : Robot R) : String :=
  s!"Robot(name='{r.name.display}', tool='{r.tool.name.display}', external_axes={r.axes.length})"

end Robot

end SixAxis
