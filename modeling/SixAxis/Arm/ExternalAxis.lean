import SixAxis.Space.Frame
import SixAxis.Space.Mesh
import SixAxis.Arm.Angle
import SixAxis.Arm.Joint

/-!
# External axes

A linear track or a turntable beside the arm.  Its moving part, with the frame attached to it,
moves along or about the third direction of the axis frame.  A linear axis can carry the robot.

An axis has a name, and only a linear one carries the robot; both are part of the type.

* `ExternalAxis.motionAt` — the motion of the moving part at a value;
* `ExternalAxis.closest` — the value that brings the attached frame closest to a point;
* `ExternalAxis.linear`, `ExternalAxis.rotational`, `ExternalAxis.make` — constructors.
-/

namespace SixAxis

/-- How an external axis moves. -/
inductive AxisMotion where
  /-- Along a direction; values in millimetres. -/
  | linear
  /-- About a direction; values in degrees. -/
  | rotational
deriving Repr, DecidableEq, BEq

namespace AxisMotion

/-- The word for a motion in data and messages. -/
def word : AxisMotion → String
  | linear => "linear"
  | rotational => "rotational"

/-- The motion of a word. -/
def ofWord? (s : String) : Option AxisMotion := [linear, rotational].find? (·.word == s)

end AxisMotion

/-- The number of an axis: a slot of joint vectors, or a truth value for one of the first two. -/
inductive AxisNumber where
  | index (slot : Fin 6)
  | flag (b : Bool)
deriving Repr, DecidableEq

namespace AxisNumber

/-- The slot that a number stands for. -/
def slot : AxisNumber → Fin 6
  | index slot => slot
  | flag b => if b then Joint.second else Joint.first

/-- The number in the form it was given in. -/
def toNumber : AxisNumber → Number
  | index slot => .whole slot.val
  | flag b => .truth b

end AxisNumber

/-- A linear track or a turntable. -/
structure ExternalAxis (R : Type) [Scalar R] where
  name : Datum
  motion : AxisMotion
  /-- The frame that the axis carries, at value zero. -/
  attachment : Frame R
  /-- The frame whose third direction the axis moves along or about. -/
  axis : Frame R
  limits : Interval (Numeral R)
  baseMesh : Mesh R
  linkMesh : Mesh R
  carriesRobot : Bool
  /-- The number of the axis, if it is fixed. -/
  number : Option AxisNumber
  named : name.isTruthy = true
  carrier_linear : carriesRobot = true → motion = .linear

namespace ExternalAxis

variable {R : Type} [Scalar R]

/-- The motion of the moving part at a value. -/
def motionAt (a : ExternalAxis R) (v : R) : Motion R :=
  match a.motion with
  | .linear => Motion.displacement (a.axis.zaxis.scale v)
  | .rotational => Motion.rotation a.axis.zaxis (Scalar.radians v) a.axis.point

/-- The attached frame at a value. -/
def frameAt (a : ExternalAxis R) (v : R) : Frame R := a.attachment.moved (a.motionAt v)

/-- The attached frame at the value moved into the limits. -/
def frameWithin (a : ExternalAxis R) (v : Numeral R) : Frame R := a.frameAt (a.limits.clamp v).value

/-- The fixed and the moving part at a value. -/
def meshesAt (a : ExternalAxis R) (v : R) : Mesh R × Mesh R :=
  (a.baseMesh, a.linkMesh.moved (a.motionAt v))

/-- The start of the line that the axis moves along, within its limits, and its end, which is the
start moved by the vector between them; of a turntable, a piece of the line that it turns about. -/
def curve (a : ExternalAxis R) : Vec R × Vec R :=
  let along (v : R) : Vec R := a.axis.point + a.axis.zaxis.scale v
  let (start, goal) := match a.motion with
    | .linear => (along a.limits.low.value, along a.limits.high.value)
    | .rotational => (a.axis.point, along 10.0)
  (start, start + (goal - start))

/-- The value within the limits that brings the attached frame of a linear axis closest to a
point. -/
def closestNumber (a : ExternalAxis R) (p : Vec R) : Numeral R :=
  a.limits.clamp (.real (a.axis.zaxis.dot (p - a.attachment.point)))

@[inherit_doc closestNumber]
def closest (a : ExternalAxis R) (p : Vec R) : R := (a.closestNumber p).value

/-- The closest value, which a turntable does not have. -/
def closest? (a : ExternalAxis Float) (p : Vec Float) : Checked Float :=
  match a.motion with
  | .linear => Number.toReal (a.closestNumber p)
  | .rotational => .error (RobotFault.closestOnRotary a.name)

/-- The motion at a value that is an angle only if it is finite. -/
def motionAt? (a : ExternalAxis R) (v : R) : Checked (Motion R) := do
  if a.motion = .rotational then checkAngle v
  return a.motionAt v

/-- The attached frame at a value that keeps it in space. -/
def frameAt? (a : ExternalAxis R) (v : R) : Checked (Frame R) := do
  a.attachment.moved? (← a.motionAt? v)

/-- The axis moved in space. -/
def moved (a : ExternalAxis R) (m : Motion R) : ExternalAxis R :=
  { a with
    attachment := a.attachment.moved m
    axis := a.axis.moved m
    baseMesh := a.baseMesh.moved m
    linkMesh := a.linkMesh.moved m }

/-- The axis moved by a motion that keeps its frames in space. -/
def moved? (a : ExternalAxis R) (m : Motion R) : Checked (ExternalAxis R) := do
  return { a.moved m with
    attachment := ← a.attachment.moved? m
    axis := ← a.axis.moved? m
    named := a.named
    carrier_linear := a.carrier_linear }

/-- The letter of a slot. -/
def letter (i : Fin 6) : String := String.singleton (['a', 'b', 'c', 'd', 'e', 'f'].get i)

/-- A number that a slot can have. -/
def axisNumberOf (name : Datum) (n : Number) : Checked AxisNumber :=
  match n with
  | .truth b => .ok (.flag b)
  | .whole i =>
    match Numeral.slotOf? i with
    | some slot => .ok (.index slot)
    | none => .error (RobotFault.axisNumber name n)
  | .real _ =>
    if (.whole 0 : Number) ≤ n ∧ n ≤ .whole 5 then .error Misuse.illTyped
    else .error (RobotFault.axisNumber name n)

/-- An axis with the given parts, if they agree with each other. -/
def make (name : Datum) (motion : AxisMotion) (attachment axis : Frame Float)
    (limits : Interval Number) (carriesRobot : Bool) (number : Option Number)
    (baseMesh linkMesh : Mesh Float := .empty) : Checked (ExternalAxis Float) :=
  if named : name.isTruthy then
    if carrier : carriesRobot = true → motion = .linear then do
      let number ← number.mapM (axisNumberOf name)
      return ⟨name, motion, attachment.copied, axis.copied, limits, baseMesh, linkMesh, carriesRobot,
        number, named, carrier⟩
    else .error (RobotFault.rotatingCarrier name)
  else .error RobotFault.unnamedAxis

/-- The axis with another number. -/
def withNumber (a : ExternalAxis Float) (n : Option Number) : Checked (ExternalAxis Float) := do
  return { a with number := ← n.mapM (axisNumberOf a.name) }

/-- A track that carries the robot, along a direction or else along the first direction of the
attached frame. -/
def linear (name : Datum) (attachment : Frame Float) (limits : Interval Number)
    (direction : Option (Vec Float)) (number : Option Number)
    (baseMesh linkMesh : Mesh Float := .empty) : Checked (ExternalAxis Float) := do
  let axis ← Frame.ofNormal attachment.point (direction.getD attachment.xaxis)
  make name .linear attachment axis limits true number baseMesh linkMesh

/-- A turntable about the third direction of the attached frame. -/
def rotational (name : Datum) (attachment : Frame Float) (limits : Interval Number)
    (number : Option Number) (baseMesh linkMesh : Mesh Float := .empty) :
    Checked (ExternalAxis Float) :=
  make name .rotational attachment attachment limits false number baseMesh linkMesh

/-- The axis as an expression. -/
def expression (a : ExternalAxis Float) : String :=
  let number := match a.number with
    | some n => Number.shown n.toNumber
    | none => "None"
  let limits := "[" ++ Number.shown a.limits.low ++ ", " ++ Number.shown a.limits.high ++ "]"
  s!"ExternalAxis(name='{a.name.display}', type={a.motion.word}, limits={limits}, axis_number={number})"

end ExternalAxis

end SixAxis
