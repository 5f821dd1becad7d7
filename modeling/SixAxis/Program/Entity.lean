import SixAxis.Program.Action
import SixAxis.Space.Reading

/-!
# Serialized values

Everything that a job or another program can hand over as data: joint vectors, the data that
movements use, tools, targets and actions.  Each is written as a record with a tag for its kind
and the version of the schema.

* `Entity` — a value that has a serialized form;
* `Entity.toData` — that form;
* `Tag` — the kinds of serialized values.
-/

namespace SixAxis

/-- The kinds of serialized values. -/
inductive Tag where
  | robotJoints
  | externalJoints
  | speed
  | zone
  | workObject
  | tool
  | target
  | comment
  | timer
  | output
  | wait
  | freeConfiguration
  | code
  | jointDeclaration
  | movement
deriving Repr, DecidableEq, BEq

namespace Tag

/-- All kinds. -/
def all : List Tag := [
  robotJoints, externalJoints, speed, zone, workObject, tool, target, comment, timer, output, wait,
  freeConfiguration, code, jointDeclaration, movement]

/-- The word for a kind in data. -/
def word : Tag → String
  | robotJoints => "robot_joint_position"
  | externalJoints => "external_joint_position"
  | speed => "speed_data"
  | zone => "zone_data"
  | workObject => "work_object"
  | tool => "robot_tool"
  | target => "robot_target"
  | comment => "comment"
  | timer => "timer"
  | output => "digital_output"
  | wait => "wait_di"
  | freeConfiguration => "auto_axis_config"
  | code => "code_line"
  | jointDeclaration => "joint_position_declaration"
  | movement => "movement"

/-- The kind of a word. -/
def ofWord? (s : String) : Option Tag := all.find? (·.word == s)

/-- The name of a kind in messages. -/
def className : Tag → String
  | robotJoints => JointKind.className .robot
  | externalJoints => JointKind.className .external
  | speed => "SpeedData"
  | zone => "ZoneData"
  | workObject => "WorkObject"
  | tool => "RobotTool"
  | target => "RobotTarget"
  | comment => "Comment"
  | timer => "Timer"
  | output => "DigitalOutput"
  | wait => "WaitDI"
  | freeConfiguration => "AutoAxisConfig"
  | code => "CodeLine"
  | jointDeclaration => "JointPositionDeclaration"
  | movement => "Movement"

end Tag

/-- A value with a serialized form. -/
inductive Entity where
  | joints (v : JointVector Float)
  | speed (s : SpeedData)
  | zone (z : ZoneData)
  | workObject (w : WorkObject)
  | tool (t : Tool Float)
  | target (t : Target)
  | action (a : Action)

namespace Entity

/-- The kind of a value. -/
def tag : Entity → Tag
  | joints ⟨.robot, _⟩ => .robotJoints
  | joints ⟨.external, _⟩ => .externalJoints
  | speed _ => .speed
  | zone _ => .zone
  | workObject _ => .workObject
  | tool _ => .tool
  | target _ => .target
  | action (.comment _) => .comment
  | action (.timer _) => .timer
  | action (.output _) => .output
  | action (.wait _) => .wait
  | action (.freeConfiguration _) => .freeConfiguration
  | action (.code _) => .code
  | action (.joints _) => .jointDeclaration
  | action (.movement _) => .movement

end Entity

/-! ### Serialized forms -/

/-- The version of the schema. -/
def schemaVersion : Int := 1

/-- A record of a kind. -/
def tagged (tag : Tag) (fields : Datum.Fields) : Datum :=
  .record (("type", .text tag.word) :: ("version", .int schemaVersion) :: fields)

/-- The serialized form of a joint vector. -/
def JointVector.toData : JointVector Float → Datum
  | ⟨.robot, j⟩ => tagged .robotJoints [("values", .list (j.toList.map .real))]
  | ⟨.external, j⟩ => tagged .externalJoints [("values", j.toNullable)]

/-- The serialized form of speed data. -/
def SpeedData.toData (s : SpeedData) : Datum :=
  tagged .speed [
    ("name", .text s.name.text),
    ("v_tcp", .number s.tcp),
    ("v_ori", .number s.turning),
    ("v_leax", .number s.linearAxes),
    ("v_reax", .number s.rotaryAxes),
    ("predefined", s.predefined)]

/-- The serialized form of zone data. -/
def ZoneData.toData (z : ZoneData) : Datum :=
  tagged .zone [
    ("name", .text z.name.text),
    ("fine_point", z.stops),
    ("pzone_tcp", .number z.sizes.path),
    ("pzone_ori", .number z.sizes.turning),
    ("pzone_eax", .number z.sizes.axes),
    ("zone_ori", .number z.sizes.turningAngle),
    ("zone_leax", .number z.sizes.linearAxes),
    ("zone_reax", .number z.sizes.rotaryAxes),
    ("predefined", z.predefined)]

/-- The serialized form of a work object; its axis is written by name. -/
def WorkObject.toData (w : WorkObject) : Datum :=
  tagged .workObject [
    ("name", .text w.name.text),
    ("user_frame", w.userFrame.toData),
    ("object_frame", w.objectFrame.toData),
    ("external_axis", match w.axis with
      | none => .null
      | some a => a.name),
    ("robot_hold", w.held)]

/-- The serialized form of a tool, without its shape. -/
def Tool.toData (t : Tool Float) : Datum :=
  tagged .tool [
    ("name", t.name),
    ("attachment_frame", t.attachment.toData),
    ("tool_frame", t.tcp.toData),
    ("mass", .number t.mass)]

/-- The serialized form of a target. -/
def Target.toData (t : Target) : Datum :=
  tagged .target [
    ("name", .text t.name.text),
    ("frame", t.frame.toData),
    ("axis_config", match t.configuration with
      | none => .null
      | some n => .number n),
    ("external_joint_position", t.external.toNullable)]

/-- The serialized form of an output that is set. -/
def DigitalOutput.toData (d : DigitalOutput) : Datum :=
  tagged .output [("name", .text d.name.text), ("is_active", d.active)]

/-- The serialized form of a movement, with those of its parts inside. -/
def Movement.toData (m : Movement) : Datum :=
  tagged .movement [
    ("target", m.target.toData),
    ("speed_data", m.speed.toData),
    ("movement_type", .int m.kind.number),
    ("zone_data", m.zone.toData),
    ("tool", match m.tool with
      | none => .null
      | some t => t.toData),
    ("work_object", m.workObject.toData),
    ("digital_output", match m.output with
      | none => .null
      | some d => d.toData)]

/-- The serialized form of an action. -/
def Action.toData : Action → Datum
  | .comment c => tagged .comment [("text", c.text), ("code_type", .text c.place.word)]
  | .timer t => tagged .timer [("duration", .number t.duration)]
  | .output d => d.toData
  | .wait w => tagged .wait [("name", .text w.name.text), ("value", w.value)]
  | .freeConfiguration enabled => tagged .freeConfiguration [("enabled", enabled)]
  | .code c => tagged .code [("code", .text c.code), ("code_type", .text c.place.word)]
  | .joints j =>
    tagged .jointDeclaration [("name", .text j.name.text), ("position", j.position.toData)]
  | .movement m => m.toData

/-- The serialized form of a value. -/
def Entity.toData : Entity → Datum
  | .joints v => v.toData
  | .speed s => s.toData
  | .zone z => z.toData
  | .workObject w => w.toData
  | .tool t => t.toData
  | .target t => t.toData
  | .action a => a.toData

end SixAxis
