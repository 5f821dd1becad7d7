import SixAxis.Journal
import SixAxis.Arm.Catalog
import SixAxis.Arm.Solution

/-!
# Robots with a journal

The operations on robots together with the events they leave.  What they compute is defined
without a journal in the modules on the arm; here each result is recorded.
-/

namespace SixAxis

namespace Posture

/-- The event of a posture: only one outside the limits leaves any. -/
def event? (p : Posture Float) (robot : Datum) : Option Event :=
  if p.reports.isEmpty then none
  else some (.postureOutOfLimits robot (p.reports.map (·.text)))

end Posture

namespace Solution

/-- The event of a solution. -/
def event (s : Solution Float) (robot : Datum) : Event :=
  if s.reports.isEmpty then .solved robot s.chosen.configuration.val
  else .solutionOutOfLimits robot s.chosen.configuration.val (s.reports.map (·.text))

end Solution

namespace Work

/-- Records a robot that has come into being. -/
def created (r : Robot Float) : Work (Robot Float) := do
  record (.robotCreated r.name r.tool.name r.axes.length)
  return r

/-- A robot assembled from parts. -/
def assemble (p : Robot.Parts Float) : Work (Robot Float) := do
  created (← Robot.assemble p)

/-- The robot moved in space. -/
def moved (r : Robot Float) (m : Motion Float) : Work (Robot Float) := do
  created (← r.moved? m)

/-- The robot with another tool. -/
def withTool (r : Robot Float) (tool : Tool Float) : Work (Robot Float) := do
  created (← r.withTool? tool)

/-- A robot of a named model: at its own base first, and then where it stands. -/
def ofModel (name : Datum) (position : Frame Float) (tool : Tool Float)
    (axes : List (ExternalAxis Float)) (meshes : Option (List (Mesh Float)) := none) :
    Work (Robot Float) := do
  let model ← Model.named name
  let atBase ← created (← model.atBase tool axes meshes)
  let robot ← moved atBase (Model.standing position axes).toMotion
  record (.modelLoaded name robot.tool.name)
  return robot

/-- The robot with given joint values. -/
def pose (r : Robot Float) (joints : RobotJoints Float) (external : ExternalJoints Float)
    (hideMeshes : Bool := false) : Work (Posture Float) := do
  let p ← r.pose joints external hideMeshes
  if let some e := p.event? r.name then record e
  return p

/-- The solution of a target. -/
def solve (r : Robot Float) (target : Frame Float) (external : ExternalJoints Float)
    (fixed : Option Number) (reference : RobotJoints Float) : Work (Solution Float) := do
  let s ← r.solve target external fixed reference
  record (s.event r.name)
  return s

end Work

end SixAxis
