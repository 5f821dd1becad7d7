import SixAxis.Program.Entity

/-!
# Values as expressions

Where a message has to show a value that is no datum, it shows the expression that the value could
be built by: the kind with the names and the expressions of its parts.

* `Entity.expression` — the expression of a value.
-/

namespace SixAxis

/-- An expression of a kind with named parts. -/
def expressionOf (kind : String) (parts : List (String × String)) : String :=
  kind ++ "(" ++ ", ".intercalate (parts.map fun p => p.1 ++ "=" ++ p.2) ++ ")"

/-- The expression of a member of a closed set. -/
def memberExpression (set member value : String) : String := s!"<{set}.{member.toUpper}: {value}>"

namespace Vec

/-- A point or a direction as an expression. -/
def expression (v : Vec Float) (kind : String) : String :=
  expressionOf kind [("x", Decimal.shown v.x), ("y", Decimal.shown v.y), ("z", Decimal.shown v.z)]

end Vec

namespace Frame

/-- A frame as an expression. -/
def expression (f : Frame Float) : String :=
  expressionOf "Frame" [
    ("point", f.point.expression "Point"),
    ("xaxis", f.xaxis.expression "Vector"),
    ("yaxis", f.yaxis.expression "Vector")]

end Frame

/-- An optional part as an expression. -/
def optionalExpression {α : Type} (f : α → String) : Option α → String
  | none => Datum.null.shown
  | some a => f a

/-- Speed data as an expression. -/
def SpeedData.expression (s : SpeedData) : String :=
  expressionOf (Tag.className .speed) [
    ("name", Text.quoted s.name.text),
    ("v_tcp", s.tcp.shown),
    ("v_ori", s.turning.shown),
    ("v_leax", s.linearAxes.shown),
    ("v_reax", s.rotaryAxes.shown),
    ("predefined", s.predefined.shown)]

/-- Zone data as an expression. -/
def ZoneData.expression (z : ZoneData) : String :=
  expressionOf (Tag.className .zone) [
    ("name", Text.quoted z.name.text),
    ("fine_point", z.stops.shown),
    ("pzone_tcp", z.sizes.path.shown),
    ("pzone_ori", z.sizes.turning.shown),
    ("pzone_eax", z.sizes.axes.shown),
    ("zone_ori", z.sizes.turningAngle.shown),
    ("zone_leax", z.sizes.linearAxes.shown),
    ("zone_reax", z.sizes.rotaryAxes.shown),
    ("predefined", z.predefined.shown)]

/-- A work object as an expression. -/
def WorkObject.expression (w : WorkObject) : String :=
  expressionOf (Tag.className .workObject) [
    ("name", Text.quoted w.name.text),
    ("user_frame", w.userFrame.expression),
    ("object_frame", w.objectFrame.expression),
    ("external_axis", optionalExpression (·.expression) w.axis),
    ("robot_hold", w.held.shown)]

/-- A target as an expression. -/
def Target.expression (t : Target) : String :=
  expressionOf (Tag.className .target) [
    ("name", Text.quoted t.name.text),
    ("frame", t.frame.expression),
    ("axis_config", optionalExpression Number.shown t.configuration),
    ("external_joint_position", t.external.expression)]

/-- An output that is set as an expression. -/
def DigitalOutput.expression (d : DigitalOutput) : String :=
  expressionOf (Tag.className .output) [
    ("name", Text.quoted d.name.text), ("is_active", d.active.shown)]

/-- A part of a program as an expression. -/
def Section.expression (s : Section) : String :=
  memberExpression "CodeType" s.word (Text.quoted s.word)

/-- The name of a kind of movements in expressions. -/
def MoveKind.memberName : MoveKind → String
  | absoluteJoint => "absolute_joint"
  | linear => "linear"
  | joint => "joint"

/-- A kind of movements as an expression. -/
def MoveKind.expression (k : MoveKind) : String :=
  memberExpression "MovementType" k.memberName (toString k.number)

/-- A movement as an expression. -/
def Movement.expression (m : Movement) : Checked String := do
  let tool ← m.tool.mapM (·.expression)
  return expressionOf (Tag.className .movement) [
    ("target", m.target.expression),
    ("speed_data", m.speed.expression),
    ("movement_type", m.kind.expression),
    ("zone_data", m.zone.expression),
    ("tool", optionalExpression id tool),
    ("work_object", m.workObject.expression),
    ("digital_output", optionalExpression (·.expression) m.output)]

/-- An action as an expression. -/
def Action.expression : Action → Checked String
  | .comment c => .ok <| expressionOf (Tag.className .comment) [
      ("text", c.text.shown), ("code_type", c.place.expression)]
  | .timer t => .ok <| expressionOf (Tag.className .timer) [("duration", t.duration.shown)]
  | .output d => .ok d.expression
  | .wait w => .ok <| expressionOf (Tag.className .wait) [
      ("name", Text.quoted w.name.text), ("value", w.value.shown)]
  | .freeConfiguration enabled =>
    .ok <| expressionOf (Tag.className .freeConfiguration) [("enabled", enabled.shown)]
  | .code c => .ok <| expressionOf (Tag.className .code) [
      ("code", Text.quoted c.code), ("code_type", c.place.expression)]
  | .joints j => .ok <| expressionOf (Tag.className .jointDeclaration) [
      ("name", Text.quoted j.name.text), ("position", j.position.joints.expression)]
  | .movement m => m.expression

/-- A value as an expression. -/
def Entity.expression : Entity → Checked String
  | .joints v => .ok v.joints.expression
  | .speed s => .ok s.expression
  | .zone z => .ok z.expression
  | .workObject w => .ok w.expression
  | .tool t => t.expression
  | .target t => .ok t.expression
  | .action a => a.expression

end SixAxis
