import SixAxis.Job.Schema
import SixAxis.Work.Program
import SixAxis.Space.Reading

/-!
# Carrying out a job

From the sections of a job come its tools, its axes and its robot, from these and its actions the
two modules.

* `FrameSection.build`, `ToolSection.build`, `AxisSection.build`, `RobotSection.build`;
* `Job.generate` — both modules of a job.
-/

namespace SixAxis

namespace FrameSection

/-- The frame of a section. -/
def build (f : FrameSection) : Checked (Frame Float) := Frame.ofData f.toData

end FrameSection

namespace ToolSection

/-- The tool of a section. -/
def build (t : ToolSection) : Checked (Tool Float) := do
  let attachment ← t.attachment.build
  let tcp ← t.tcp.build
  Tool.make t.name attachment tcp (.real t.mass)

end ToolSection

namespace AxisSection

/-- The axis of a section. -/
def build (a : AxisSection) : Checked (ExternalAxis Float) := do
  let limits ← Interval.ofNumbers (.real a.limits.1) (.real a.limits.2)
  let attachment ← a.attachment.build
  let number := a.number.map Numeral.whole
  if a.type = "linear" then
    let direction ← a.direction.mapM fun xs => Vec.ofData (realsData xs)
    ExternalAxis.linear a.name attachment limits direction number
  else ExternalAxis.rotational a.name attachment limits number

end AxisSection

namespace RobotSection

/-- The sections of tools by name: the last one of a name, in the place of the first. -/
def toolsByName (tools : List ToolSection) : List ToolSection :=
  tools.foldl (fun known t =>
    if known.any (·.name == t.name) then known.map fun k => if k.name == t.name then t else k
    else known ++ [t]) []

/-- The tool of a robot among the tools of its job. -/
def chooseTool (r : RobotSection) (tools : List ToolSection) : Checked (Tool Float) :=
  match r.tool with
  | none => .ok Tool.standard
  | some name =>
    let known := toolsByName tools
    match known.find? (·.name == name) with
    | some t => t.build
    | none => .error (RobotFault.undefinedTool name (known.map (·.name)))

/-- The robot of a section, with a tool of its job. -/
def build (r : RobotSection) (tools : List ToolSection) : Work (Robot Float) := do
  let tool ← r.chooseTool tools
  let position ← r.position.build
  let axes ← r.axes.mapM fun a => (a.build : Work (ExternalAxis Float))
  Work.ofModel r.model position tool axes

end RobotSection

/-- The two modules of a job. -/
structure Modules where
  /-- The generator that has made them. -/
  generator : Generator
  program : String
  system : String

namespace Job

/-- The tools of a job in a table, each also kept by itself. -/
def buildTools (j : Job) (owner : String) : Work ToolTable :=
  j.tools.foldlM (fun table t => do Work.register table (← t.build)) (ToolTable.empty owner)

/-- Both modules of a job; the tools are kept in the name of an owner. -/
def generate (j : Job) (owner : String) : Work Modules := do
  let table ← j.buildTools owner
  let robot ← j.robot.build j.tools
  let actions ← Decoder.readAll ⟨some robot, table.tools⟩ (j.actions.map .record)
  let (generator, program) ← Work.call (.fresh robot j.settings) (.program actions none)
  let program ← program
  return ⟨generator, program, ← generator.systemModule table.tools⟩

end Job

end SixAxis
