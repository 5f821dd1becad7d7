import SixAxis.Program.Expression

/-!
# Movements from separate parts

A movement put together from parts that may be anything: each part has to be of its kind, and the
first one that is not is a fault.  The parts are looked at in a fixed order, the kind of the
movement last.
-/

namespace SixAxis

/-- Something that is handed over as a part: a value, or data that stand for nothing else. -/
inductive Part where
  | value (v : Option Entity)
  | datum (d : Datum)

namespace Part

/-- The name that messages give to the kind of a part. -/
def className : Part → String
  | value (some v) => v.tag.className
  | value none => "NotImplementedType"
  | datum d => d.kind

/-- A part of a kind. -/
def expect {α : Type} (field expected : String) (read : Part → Option α) (p : Part) : Checked α :=
  match read p with
  | some a => .ok a
  | none => .error (ActionFault.movementField field expected p.className)

/-- A target. -/
def target? : Part → Option Target
  | value (some (.target t)) => some t
  | _ => none

/-- Speed data. -/
def speed? : Part → Option SpeedData
  | value (some (.speed s)) => some s
  | _ => none

/-- Zone data. -/
def zone? : Part → Option ZoneData
  | value (some (.zone z)) => some z
  | _ => none

/-- A work object. -/
def workObject? : Part → Option WorkObject
  | value (some (.workObject w)) => some w
  | _ => none

/-- A tool, or none. -/
def tool? : Part → Option (Option (Tool Float))
  | value (some (.tool t)) => some (some t)
  | datum .null => some none
  | _ => none

/-- An output that is set, or none. -/
def output? : Part → Option (Option DigitalOutput)
  | value (some (.action (.output d))) => some (some d)
  | datum .null => some none
  | _ => none

/-- The kind of a movement to a target. -/
def moveKind (target : String) : Part → Checked MoveKind
  | datum d =>
    match MoveKind.ofData? d with
    | some kind => .ok kind
    | none => .error (ActionFault.movementKind target d)
  | value none => .error (ActionFault.valueAsKind target "NotImplemented")
  | value (some v) => do .error (ActionFault.valueAsKind target (← v.expression))

end Part

namespace Movement

/-- The names of the parts of a movement. -/
def partNames : List String := [
  "target", "speed_data", "movement_type", "zone_data", "tool", "work_object", "digital_output"]

/-- A movement from named parts, with usual ones for those that are left out. -/
def ofParts (parts : List (String × Part)) : Checked Movement := do
  let find (name : String) : Option Part := (parts.find? (·.1 == name)).map (·.2)
  unless parts.all fun p => partNames.contains p.1 do .error Misuse.illTyped
  let target ← match find "target" with
    | none => .error Misuse.illTyped
    | some p => p.expect "target" (Tag.className .target) Part.target?
  let speed ← match find "speed_data" with
    | none => SpeedData.nearest (.int 5)
    | some p => p.expect "speed_data" (Tag.className .speed) Part.speed?
  let zone ← match find "zone_data" with
    | none => ZoneData.ofRadius (.int 0)
    | some p => p.expect "zone_data" (Tag.className .zone) Part.zone?
  let workObject ← match find "work_object" with
    | none => WorkObject.make (.text WorkObject.standardName) .world .world none (.bool false)
    | some p => p.expect "work_object" (Tag.className .workObject) Part.workObject?
  let tool ← match find "tool" with
    | none => pure none
    | some p => p.expect "tool" (Tag.className .tool ++ " or None") Part.tool?
  let output ← match find "digital_output" with
    | none => pure none
    | some p => p.expect "digital_output" (Tag.className .output ++ " or None") Part.output?
  let kind ← match find "movement_type" with
    | none => pure MoveKind.absoluteJoint
    | some p => p.moveKind target.name.text
  return ⟨target, speed, kind, zone, tool, workObject, output⟩

end Movement

end SixAxis
