import SixAxis.Space.Frame
import SixAxis.Space.Mesh

/-!
# Tools

A tool is modelled in a space of its own: one frame of it meets the flange of the robot, another
one is the tool centre point.  Mounting a tool moves both, so what a tool is to the robot is the
second frame in the coordinates of the first, `Tool.localTcp`.

A tool has a name, and a mass that is not zero or less.
-/

namespace SixAxis

/-- A tool that can be mounted on the flange of a robot. -/
structure Tool (R : Type) [Scalar R] where
  name : Datum
  /-- The frame of the tool that meets the flange. -/
  attachment : Frame R
  /-- The tool centre point. -/
  tcp : Frame R
  mesh : Mesh R
  /-- In kilograms. -/
  mass : Numeral R
  named : name.isTruthy = true
  heavy : ¬ mass ≤ .whole 0

namespace Tool

variable {R : Type} [Scalar R]

/-- The tool centre point relative to the flange. -/
def localTcp (t : Tool R) : Frame R := t.tcp.relativeTo t.attachment

/-- The tool centre point relative to the flange, if the tool is in space. -/
def localTcp? (t : Tool R) : Checked (Frame R) := t.tcp.relativeTo? t.attachment

/-- The motion that puts the tool on a flange. -/
def mounting (t : Tool R) (flange : Frame R) : Motion R := Motion.between t.attachment flange

/-- The tool on a flange. -/
def attachedTo (t : Tool R) (flange : Frame R) : Tool R :=
  let m := t.mounting flange
  { t with
    attachment := t.attachment.moved m
    tcp := t.tcp.moved m
    mesh := t.mesh.moved m }

/-- Whether the tool stays in space on a flange. -/
def checkFlange (t : Tool R) (flange : Frame R) : Checked Unit := do
  let m := t.mounting flange
  let _ ← t.attachment.moved? m
  let _ ← t.tcp.moved? m

/-- A tool with the given parts, if it has a name and a positive mass. -/
def make (name : Datum) (attachment tcp : Frame Float) (mass : Number)
    (mesh : Mesh Float := .empty) : Checked (Tool Float) :=
  if named : name.isTruthy then
    if heavy : mass ≤ .whole 0 then .error (RobotFault.toolMass name mass)
    else .ok ⟨name, attachment.copied, tcp.copied, mesh, mass, named, heavy⟩
  else .error RobotFault.unnamedTool

/-- The name of the tool that every controller has: its centre point is on the flange. -/
def standardName : String := "tool0"

/-- The mass of a tool that is given none. -/
def standardMass : Number := .real 0.001

theorem standardMass_heavy : ¬ standardMass ≤ .whole 0 := by decide +kernel

/-- The tool that every controller has. -/
def standard : Tool Float :=
  ⟨standardName, .world, .world, .empty, standardMass, by decide, standardMass_heavy⟩

instance : Inhabited (Tool Float) := ⟨standard⟩

/-- The tool as an expression. -/
def expression (t : Tool Float) : Checked String := do
  let position := ", ".intercalate ((← t.localTcp?).point.toList.map Decimal.shown)
  return s!"RobotTool(name='{t.name.display}', tcp=({position}))"

end Tool

end SixAxis
