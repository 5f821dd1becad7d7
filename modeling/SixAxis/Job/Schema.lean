import SixAxis.Datum.Serial
import SixAxis.Job.Validated
import SixAxis.Program.Settings

/-!
# Job sections

A job names the robot that a program is generated for, the tools that its system module declares,
the settings of the modules, and the actions in order.  Fields that are left out have values of
their own, and fields that no section knows are passed over.  The actions are only checked to be
records; what they say is read when the robot is known.

* `Job` and its sections, each with `ofFields` — the section of some fields — and `toData` — the
  section with every field written out.
-/

namespace SixAxis

/-- A frame in a job. -/
structure FrameSection where
  point : List Float
  xaxis : List Float
  yaxis : List Float

/-- A tool in a job. -/
structure ToolSection where
  name : String
  attachment : FrameSection
  tcp : FrameSection
  mass : Float

/-- An external axis in a job. -/
structure AxisSection where
  name : String
  type : String
  attachment : FrameSection
  direction : Option (List Float)
  limits : Float × Float
  number : Option Int

/-- The robot in a job. -/
structure RobotSection where
  model : String
  position : FrameSection
  tool : Option String
  axes : List AxisSection

/-- A job. -/
structure Job where
  settings : Settings
  robot : RobotSection
  tools : List ToolSection
  actions : List Datum.Fields

namespace Settings

/-- A name in a program. -/
def name (d : Datum) : Validated String :=
  (Validated.text d).andThen fun s =>
    if isIdentifier s then .fits s else .against s!"'{s}' is not a valid RAPID identifier"

/-- The settings of some fields. -/
def ofFields (fields : Datum.Fields) : Validated Settings :=
  let usual := Settings.usual
  Settings.mk
    <$> .field fields "module_name" name usual.moduleName
    <*> .field fields "procedure_name" name usual.procedureName
    <*> .field fields "indent" .text usual.indent
    <*> .field fields "line_ending" .text usual.lineEnding
    <*> .field fields "program_file_name" .text usual.programFile
    <*> .field fields "system_file_name" .text usual.systemFile

/-- The settings with every field written out. -/
def toData (s : Settings) : Datum :=
  .record [
    ("module_name", .text s.moduleName),
    ("procedure_name", .text s.procedureName),
    ("indent", .text s.indent),
    ("line_ending", .text s.lineEnding),
    ("program_file_name", .text s.programFile),
    ("system_file_name", .text s.systemFile)]

end Settings

/-- A list of doubles. -/
def realsData (xs : List Float) : Datum := .list (xs.map .real)

namespace FrameSection

/-- The frame of the world. -/
def world : FrameSection := ⟨[0.0, 0.0, 0.0], [1.0, 0.0, 0.0], [0.0, 1.0, 0.0]⟩

/-- Three numbers. -/
def three (d : Datum) : Validated (List Float) :=
  (Validated.listOf .real d).andThen fun xs =>
    if xs.length = 3 then .fits xs else .against "expected three values"

/-- The frame of some fields. -/
def ofFields (fields : Datum.Fields) : Validated FrameSection :=
  FrameSection.mk
    <$> .field fields "point" three world.point
    <*> .field fields "xaxis" three world.xaxis
    <*> .field fields "yaxis" three world.yaxis

/-- The frame with every field written out. -/
def toData (f : FrameSection) : Datum :=
  .record [("point", realsData f.point), ("xaxis", realsData f.xaxis), ("yaxis", realsData f.yaxis)]

/-- A frame in a field, that of the world where it is absent. -/
def field (fields : Datum.Fields) (name : String) : Validated FrameSection :=
  .field fields name (.asSection ofFields) world

end FrameSection

namespace ToolSection

/-- The tool of some fields. -/
def ofFields (fields : Datum.Fields) : Validated ToolSection :=
  ToolSection.mk
    <$> .field fields "name" .text
    <*> FrameSection.field fields "attachment_frame"
    <*> FrameSection.field fields "tool_frame"
    <*> .field fields "mass" .real (some 0.001)

/-- The tool with every field written out. -/
def toData (t : ToolSection) : Datum :=
  .record [
    ("name", .text t.name),
    ("attachment_frame", t.attachment.toData),
    ("tool_frame", t.tcp.toData),
    ("mass", .real t.mass)]

end ToolSection

namespace AxisSection

/-- The word for the motion of an axis. -/
def motionWord (d : Datum) : Validated String :=
  (Validated.text d).andThen fun s =>
    if s = "linear" ∨ s = "rotational" then .fits s
    else .against s!"unknown external axis type '{s}'"

/-- The axis of some fields. -/
def ofFields (fields : Datum.Fields) : Validated AxisSection :=
  AxisSection.mk
    <$> .field fields "name" .text
    <*> .field fields "type" motionWord (some "linear")
    <*> FrameSection.field fields "attachment_frame"
    <*> .field fields "direction" (.nullable (.listOf .real)) (some none)
    <*> .field fields "limits" (.pairOf .real) (some (-1000.0, 1000.0))
    <*> .field fields "axis_number" (.nullable .integer) (some none)

/-- The axis with every field written out. -/
def toData (a : AxisSection) : Datum :=
  .record [
    ("name", .text a.name),
    ("type", .text a.type),
    ("attachment_frame", a.attachment.toData),
    ("direction", match a.direction with
      | none => .null
      | some v => realsData v),
    ("limits", realsData [a.limits.1, a.limits.2]),
    ("axis_number", match a.number with
      | none => .null
      | some n => .int n)]

end AxisSection

namespace RobotSection

/-- The robot of a job that names none. -/
def usual : RobotSection := ⟨"IRB2600ID-15/1.85", .world, none, []⟩

/-- The robot of some fields. -/
def ofFields (fields : Datum.Fields) : Validated RobotSection :=
  RobotSection.mk
    <$> .field fields "preset" .text usual.model
    <*> FrameSection.field fields "position"
    <*> .field fields "tool" (.nullable .text) (some none)
    <*> .field fields "external_axes" (.listOf (.asSection AxisSection.ofFields)) (some [])

/-- The robot with every field written out. -/
def toData (r : RobotSection) : Datum :=
  .record [
    ("preset", .text r.model),
    ("position", r.position.toData),
    ("tool", match r.tool with
      | none => .null
      | some name => .text name),
    ("external_axes", .list (r.axes.map AxisSection.toData))]

end RobotSection

namespace Job

/-- The job of some fields. -/
def ofFields (fields : Datum.Fields) : Validated Job :=
  Job.mk
    <$> .field fields "settings" (.asSection Settings.ofFields) Settings.usual
    <*> .field fields "robot" (.asSection RobotSection.ofFields) RobotSection.usual
    <*> .field fields "tools" (.listOf (.asSection ToolSection.ofFields)) (some [])
    <*> .field fields "actions" (.listOf .namedFields) (some [])

/-- The job with every field written out. -/
def toData (j : Job) : Datum :=
  .record [
    ("settings", j.settings.toData),
    ("robot", j.robot.toData),
    ("tools", .list (j.tools.map ToolSection.toData)),
    ("actions", .list (j.actions.map .record))]

/-- The data of a job whose actions have a serialized form. -/
def serialized (j : Job) : Checked Datum := do
  j.toData.checkSerial
  return j.toData

end Job

end SixAxis
