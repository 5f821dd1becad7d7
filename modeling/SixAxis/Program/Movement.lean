import SixAxis.Program.Target
import SixAxis.Program.SpeedData
import SixAxis.Program.ZoneData
import SixAxis.Program.WorkObject
import SixAxis.Program.Signal
import SixAxis.Arm.Solution
import SixAxis.Joints.Text

/-!
# Movements

A movement takes the tool centre point to a target: joint by joint to values that are solved
beforehand, or by a pose along a line or however the joints go.  It names its speed, its zone, its
tool and its work object, and can set a digital output when it arrives.

* `Movement.worldTarget` — the target in the world, moved along with the work object;
* `Movement.solution` — the joint values for a robot;
* `Movement.declaration`, `Movement.instruction` — the movement in generated code.
-/

namespace SixAxis

/-- How a movement goes to its target. -/
inductive MoveKind where
  | absoluteJoint
  | linear
  | joint
deriving Repr, DecidableEq, BEq

namespace MoveKind

/-- The number of a kind in data. -/
def number : MoveKind → Nat
  | absoluteJoint => 0
  | linear => 1
  | joint => 2

/-- The instruction of a kind. -/
def instruction : MoveKind → String
  | absoluteJoint => "MoveAbsJ"
  | linear => "MoveL"
  | joint => "MoveJ"

/-- The kind of a number. -/
def ofData? : Datum → Option MoveKind
  | .number n => [absoluteJoint, linear, joint].find? fun k => n.same (.whole k.number)
  | _ => none

end MoveKind

/-- A movement to a target. -/
structure Movement where
  target : Target
  speed : SpeedData
  kind : MoveKind
  zone : ZoneData
  /-- The tool, where it is not that of the robot. -/
  tool : Option (Tool Float)
  workObject : WorkObject
  /-- The digital output that is set at the target. -/
  output : Option DigitalOutput

namespace Movement

/-- Whether the movement goes to joint values, not to a pose. -/
def isAbsolute (m : Movement) : Bool := m.kind == .absoluteJoint

/-- Whether the movement goes along a line. -/
def isLinear (m : Movement) : Bool := m.kind == .linear

/-- The name of the declared target. -/
def variableName (m : Movement) : String :=
  if m.isAbsolute then m.target.jointName else m.target.poseName

/-! ### Solving -/

/-- The target in the world, with the work object at home. -/
def globalTarget (m : Movement) : Frame Float :=
  m.target.frame.moved m.workObject.globalFrame.toMotion

/-- The target in the world, with the work object at home, if both are in space. -/
def globalTarget? (m : Movement) : Checked (Frame Float) := do
  m.target.frame.moved? (← m.workObject.globalFrame?).toMotion

/-- The target in the world, with the work object moved by its external axis, which has to be
attached to the robot.  Without a value, that axis is at zero. -/
def worldTarget (m : Movement) (r : Robot Float) : Checked (Frame Float) := do
  let target ← m.globalTarget?
  match m.workObject.axis with
  | none => return target
  | some a =>
    match r.axisNamed a.name with
    | none => .error (ActionFault.axisNotAttached a.name m.workObject.name.text r.name)
    | some attached =>
      target.moved? (← attached.axis.motionAt? (m.target.external.valueOrZero attached.slot))

/-- The joint values of a robot for the movement.  The configuration is that of the target unless
another one is asked for. -/
def solution (m : Movement) (r : Robot Float) (fixed : Option Number := none)
    (reference : RobotJoints Float := default) : Checked (Solution Float) := do
  let target ← m.worldTarget r
  r.solve target m.target.external (fixed <|> m.target.configuration) reference

/-! ### Generated code -/

/-- The declaration of the target for a solution: joint values, or the pose with a configuration. -/
def declarationOf (m : Movement) (s : Solution Float) : String :=
  let external := s.external.code
  if m.isAbsolute then
    s!"CONST jointtarget {m.target.jointName} := [{s.joints.code}, {external}];"
  else
    let position := CodeNumber.list m.target.frame.point.toList
    let orientation := CodeNumber.list m.target.frame.quaternion.toList CodeNumber.unitDecimals
    let configuration := match m.target.configuration with
      | some n => n.shown
      | none => toString s.chosen.configuration.val
    s!"VAR robtarget {m.target.poseName} := [[{position}], [{orientation}], "
      ++ s!"[0, 0, 0, {configuration}], {external}];"

/-- The declaration of the target for a robot, which there has to be. -/
def declaration (m : Movement) (r : Option (Robot Float)) : Checked String :=
  match r with
  | none => .error (ActionFault.robotNeeded m.target.name.text)
  | some r => return m.declarationOf (← m.solution r)

/-- The name of the tool: that of the movement, or of the robot, or the standard one. -/
def toolName (m : Movement) (r : Option (Robot Float)) : Datum :=
  match m.tool, r with
  | some t, _ => t.name
  | none, some r => r.tool.name
  | none, none => Tool.standardName

/-- What follows the instruction: target, speed, zone, tool and work object. -/
def arguments (m : Movement) (r : Option (Robot Float)) : String :=
  s!"{m.variableName}, {m.speed.name.text}, {m.zone.name.text}, {(m.toolName r).display}"
    ++ s!"\\WObj:={m.workObject.name.text}"

/-- The instruction.  There is none that moves to joint values and sets an output, so that takes
two. -/
def instruction (m : Movement) (r : Option (Robot Float)) : String :=
  let code := m.kind.instruction
  let arguments := m.arguments r
  match m.output with
  | none => s!"{code} {arguments};"
  | some output =>
    if m.isAbsolute then s!"{code} {arguments};\n{output.instruction}"
    else s!"{code}DO {arguments}, {output.name.text}, {output.level};"

/-- The movement in a message. -/
def described (m : Movement) : String :=
  let name := m.target.name.text
  if m.isAbsolute then s!"Absolute Joint Movement ({name})"
  else
    let kind := if m.isLinear then "Linear" else "Joint"
    s!"{kind} Movement ({name}\\{m.workObject.name.text})"

end Movement

end SixAxis
