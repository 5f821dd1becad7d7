import SixAxis.Arm.Robot
import SixAxis.Interval

/-!
# Robot models

The robot models that the program knows, each with its joints at home in coordinates of its own
base: a point and a direction for every joint, its limits, and the flange.

* `Model.frames`, `Model.flangeFrame` — the frames that follow from these;
* `Model.robot` — the robot at a position, which an axis that carries the robot decides;
* `Model.named` — the model of a name that may be any datum.
-/

namespace SixAxis

/-- A robot model in coordinates of its base. -/
structure Model where
  name : String
  manufacturer : String
  /-- A point on the axis of each joint, and the direction of that axis. -/
  jointAxes : List (Vec Float × Vec Float)
  /-- In degrees. -/
  jointLimits : List (Float × Float)
  flange : Vec Float
  /-- In kilograms. -/
  payload : Float

namespace Model

/-- A large model with an offset wrist line. -/
def irb2600 : Model where
  name := "IRB2600ID-15/1.85"
  manufacturer := "ABB"
  jointAxes := [
    (⟨0.0, 0.0, 0.0⟩, .unitZ),
    (⟨150.0, 0.0, 445.0⟩, .unitY),
    (⟨150.0, 0.0, 1345.0⟩, .unitY),
    (⟨393.0, 0.0, 1495.0⟩, .unitX),
    (⟨936.0, 0.0, 1495.0⟩, .unitY),
    (⟨1071.0, 0.0, 1495.0⟩, .unitX)]
  jointLimits := [
    (-180.0, 180.0), (-95.0, 155.0), (-180.0, 75.0), (-175.0, 175.0), (-120.0, 120.0),
    (-400.0, 400.0)]
  flange := ⟨1071.0, 0.0, 1495.0⟩
  payload := 15.0

/-- A small model. -/
def irb140 : Model where
  name := "IRB140"
  manufacturer := "ABB"
  jointAxes := [
    (⟨0.0, 0.0, 0.0⟩, .unitZ),
    (⟨70.0, 0.0, 352.0⟩, .unitY),
    (⟨70.0, 0.0, 712.0⟩, .unitY),
    (⟨250.0, 0.0, 712.0⟩, .unitX),
    (⟨450.0, 0.0, 712.0⟩, .unitY),
    (⟨515.0, 0.0, 712.0⟩, .unitX)]
  jointLimits := [
    (-180.0, 180.0), (-90.0, 110.0), (-230.0, 50.0), (-200.0, 200.0), (-115.0, 115.0),
    (-400.0, 400.0)]
  flange := ⟨515.0, 0.0, 712.0⟩
  payload := 6.0

/-- All models, in the order they are listed. -/
def all : List Model := [irb2600, irb140]

/-- The names of the models. -/
def names : List String := all.map (·.name)

/-- The model of a name. -/
def ofName? (name : Datum) : Option Model := all.find? fun m => name.isText m.name

/-- The joint frames: the direction of a joint is the third one of its frame. -/
def frames (m : Model) : Checked (List (Frame Float)) :=
  m.jointAxes.mapM fun (point, normal) => Frame.ofNormal point normal

/-- The limits of the joints. -/
def limits (m : Model) : Checked (List (Interval Float)) :=
  m.jointLimits.mapM fun (low, high) => Interval.ofReals low high

/-- The flange: the third direction out of it, the first one pointing down. -/
def flangeFrame (m : Model) : Checked (Frame Float) :=
  Frame.ofAxes m.flange ⟨0.0, 0.0, -1.0⟩ .unitY

/-- A robot of this model at its own base. -/
def atBase (m : Model) (tool : Tool Float) (axes : List (ExternalAxis Float))
    (meshes : Option (List (Mesh Float))) : Checked (Robot Float) := do
  Robot.assemble
    { name := m.name
      manufacturer := m.manufacturer
      base := .world
      jointFrames := ← m.frames
      jointLimits := ← m.limits
      flange := some (← m.flangeFrame)
      linkMeshes := meshes
      tool := tool
      axes := axes }

/-- Where a robot stands: on the axis that carries it, or else where it is put. -/
def standing (position : Frame Float) (axes : List (ExternalAxis Float)) : Frame Float :=
  match axes.find? (·.carriesRobot) with
  | some a => a.attachment
  | none => position

/-- A robot of this model where it stands. -/
def robot (m : Model) (position : Frame Float) (tool : Tool Float)
    (axes : List (ExternalAxis Float)) (meshes : Option (List (Mesh Float)) := none) :
    Checked (Robot Float) := do
  let atBase ← m.atBase tool axes meshes
  atBase.moved? (standing position axes).toMotion

/-- The model of a name, which has to be one of those that are listed. -/
def named (name : Datum) : Checked Model :=
  if !name.isKey then .error Misuse.illTyped
  else match ofName? name with
  | some m => .ok m
  | none => .error (RobotFault.unknownPreset name names)

end Model

end SixAxis
