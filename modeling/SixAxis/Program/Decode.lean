import SixAxis.Program.Entity

/-!
# Reading serialized values

A value is read from a record by the tag of its kind.  Where the place of a record demands a kind,
the tag can be left out, and some parts have short forms: a speed or zone as a number or a known
name, a tool or an external axis by name.

Every record is checked in the same order — that it is a record, that it has a tag, that the tag
is the one its place demands, that its version is not newer than the schema — before any of its
fields.

* `Decoder.decode?` — the value of a record of any kind;
* `Decoder.read?` — the same, with misuses of the data reported as invalid data;
* `Decoder.readAll` — a list of values.
-/

namespace SixAxis

namespace Datum

theorem sizeOf_lookup_lt {fields : Fields} {name : String} {v : Datum}
    (h : lookup fields name = some v) : sizeOf v < sizeOf fields := by
  simp only [lookup, Option.map_eq_some_iff] at h
  obtain ⟨⟨key, w⟩, hf, rfl⟩ := h
  have := List.sizeOf_lt_of_mem (List.mem_of_find?_eq_some hf)
  simp only [Prod.mk.sizeOf_spec] at this ⊢
  omega

theorem sizeOf_get?_lt {d : Datum} {name : String} {v : Datum} (h : d.get? name = some v) :
    sizeOf v < sizeOf d := by
  cases d with
  | record fields =>
    have := sizeOf_lookup_lt (show lookup fields name = some v from h)
    simp only [record.sizeOf_spec]
    omega
  | _ => simp [get?] at h

end Datum

/-- What names in data can refer to: a robot with its axes and its tool, and other tools. -/
structure Decoder where
  robot : Option (Robot Float)
  tools : List (Tool Float)

namespace Decoder

/-! ### Tags -/

/-- Words that, as tags, ask for an operation that every value has.  Such an operation does not
take a record. -/
def commonOperations : List String := [
  "_init__", "_class__", "_dict__", "_doc__", "_module__", "_repr__", "_str__", "_hash__",
  "_getattribute__", "_setattr__", "_delattr__", "_sizeof__", "_format__", "_reduce__",
  "_reduce_ex__", "_init_subclass__", "_new__", "_dir__", "_getstate__"]

/-- Words that, as tags, ask for a comparison, which has no result for a record. -/
def comparisons : List String := [
  "_eq__", "_ne__", "_lt__", "_le__", "_gt__", "_ge__", "_subclasshook__"]

/-- Short words that read as a part of a movement, and the kind of that part. -/
def partWords : List (String × Tag) := [("speed", .speed), ("zone", .zone), ("tool", .tool)]

/-- What the tag of a record asks for. -/
inductive Request where
  | kind (tag : Tag)
  /-- A part under its short word: the record still has to carry the tag of the kind. -/
  | part (tag : Tag)
  | operation
  | comparison
  | unknown

/-- What a tag asks for. -/
def request (type : Datum) : Request :=
  match type with
  | .text s =>
    match Tag.ofWord? s, partWords.find? (·.1 == s) with
    | some tag, _ => .kind tag
    | none, some (_, tag) => .part tag
    | none, none =>
      if commonOperations.contains s then .operation
      else if comparisons.contains s then .comparison
      else .unknown
  | _ => .unknown

/-- The checks that every record passes before its fields are read; the result is its tag. -/
def checkRecord (d : Datum) (expected : Option Tag) : Checked Datum := do
  match d with
  | .record _ => pure ()
  | _ => .error (ConfigurationFault.notMapping d.kind)
  let type := d.field "type" (match expected with
    | some tag => .text tag.word
    | none => .null)
  if type matches .null then .error (ConfigurationFault.untyped d)
  if let some tag := expected then
    unless type.same (.text tag.word) do
      .error (ConfigurationFault.otherType tag.word type d)
  let version ← (d.field "version" (.int schemaVersion)).toNumber
  if (.whole schemaVersion : Number) < version then
    .error (ConfigurationFault.newerVersion (.number version) type schemaVersion)
  return type

/-! ### Parts -/

/-- The values of a joint vector. -/
def jointValues (d : Datum) : Checked (List Datum) := (d.field "values" (.list [])).items

/-- The fields of speed data. -/
def speedFields (d : Datum) : Checked SpeedData := do
  let name ← d.required "name"
  let tcp ← d.required "v_tcp"
  SpeedData.make name tcp (d.field "v_ori" SpeedData.usualTurning)
    (d.field "v_leax" SpeedData.usualLinearAxes) (d.field "v_reax" SpeedData.usualRotaryAxes)
    (d.field "predefined" (.bool false))

/-- The fields of zone data. -/
def zoneFields (d : Datum) : Checked ZoneData := do
  let name ← d.required "name"
  let size (field : String) : Datum := d.field field ZoneData.noSize
  ZoneData.make name (d.field "fine_point" (.bool false)) (size "pzone_tcp") (size "pzone_ori")
    (size "pzone_eax") (size "zone_ori") (size "zone_leax") (size "zone_reax")
    (d.field "predefined" (.bool false))

/-- A frame in a field, that of the world where it is absent. -/
def frameField (d : Datum) (field : String) : Checked (Frame Float) :=
  Frame.ofData (d.field field (.record []))

/-- The axis that a work object names, which has to be attached to the robot. -/
def namedAxis (c : Decoder) (d : Datum) : Checked (Option (ExternalAxis Float)) :=
  match d.optional? "external_axis" with
  | none => .ok none
  | some name =>
    match c.robot with
    | none => do .error (ConfigurationFault.robotNeeded (← d.required "name"))
    | some r =>
      match r.axisNamed name with
      | some a => .ok (some a.toAxis)
      | none => .error (ConfigurationFault.axisNotAttached name r.axisNames)

/-- The fields of a work object. -/
def workObjectFields (c : Decoder) (d : Datum) : Checked WorkObject := do
  let axis ← c.namedAxis d
  let userFrame ← frameField d "user_frame"
  let objectFrame ← frameField d "object_frame"
  WorkObject.make (d.field "name" (.text WorkObject.standardName)) userFrame objectFrame axis
    (d.field "robot_hold" (.bool false))

/-- The fields of a tool. -/
def toolFields (d : Datum) : Checked (Tool Float) := do
  let name ← d.required "name"
  let attachment ← frameField d "attachment_frame"
  let tcp ← frameField d "tool_frame"
  if !name.isTruthy then .error RobotFault.unnamedTool
  let mass ← (d.field "mass" (.number Tool.standardMass)).toNumber
  Tool.make name attachment tcp mass

/-- The fields of a target. -/
def targetFields (d : Datum) : Checked Target := do
  let name ← d.required "name"
  let frame ← frameField d "frame"
  let external ← Joints.ofNullable (← (d.field "external_joint_position" (.list [])).items)
  Target.make name frame (d.field "axis_config" .null) external

/-- The part of the program in a field. -/
def sectionField (d : Datum) : Checked Section :=
  Section.ofData (d.field "code_type" (.text Section.instruction.word))

/-- The fields of an output that is set. -/
def outputFields (d : Datum) : Checked DigitalOutput := do
  DigitalOutput.make (← d.required "name") (d.field "is_active" (.bool true))

/-! ### Short forms -/

/-- A speed: a known name, a number, or a record. -/
def speedPart (d : Datum) : Checked SpeedData :=
  match d with
  | .text s =>
    let digits := String.ofList (s.toList.dropWhile (· = 'v'))
    match Decimal.whole digits with
    | .ok n => SpeedData.ofKnown (.int n)
    | .error why => .error (Misuse.notWhole digits why)
  | .number _ => SpeedData.nearest d
  | _ => do
    let _ ← checkRecord d (some .speed)
    speedFields d

/-- A zone: a known name, a radius, or a record. -/
def zonePart (d : Datum) : Checked ZoneData :=
  match d with
  | .text s =>
    if s = ZoneData.fineName then ZoneData.fine
    else (ZoneData.ofKnown? s).getD (.error (ConfigurationFault.unknownZone s))
  | .number _ => ZoneData.ofRadius d
  | _ => do
    let _ ← checkRecord d (some .zone)
    zoneFields d

/-- A tool: none, a name, or a record. -/
def toolPart (c : Decoder) (d : Datum) : Checked (Option (Tool Float)) :=
  match d with
  | .null => .ok none
  | .text s =>
    match c.tools.find? (·.name.isText s), c.robot with
    | some t, _ => .ok (some t)
    | none, some r =>
      if r.tool.name.isText s then .ok (some r.tool)
      else .error (ConfigurationFault.undefinedTool s (c.tools.map (·.name)))
    | none, none => .error (ConfigurationFault.undefinedTool s (c.tools.map (·.name)))
  | _ => do
    let _ ← checkRecord d (some .tool)
    return some (← toolFields d)

/-- A target, which is always a record. -/
def targetPart (d : Datum) : Checked Target := do
  let _ ← checkRecord d (some .target)
  targetFields d

/-- A work object, which is always a record. -/
def workObjectPart (c : Decoder) (d : Datum) : Checked WorkObject := do
  let _ ← checkRecord d (some .workObject)
  c.workObjectFields d

/-- An output that is set: none, or a record. -/
def outputPart (d : Datum) : Checked (Option DigitalOutput) :=
  match d with
  | .null => .ok none
  | _ => do
    let _ ← checkRecord d (some .output)
    return some (← outputFields d)

/-- The kind of a movement. -/
def moveKind (d : Datum) : Checked MoveKind :=
  match MoveKind.ofData? d with
  | some k => .ok k
  | none => .error (Misuse.notMember d "MovementType")

/-- The fields of a movement. -/
def movementFields (c : Decoder) (d : Datum) : Checked Movement := do
  let target ← targetPart (← d.required "target")
  let speed ← speedPart (d.field "speed_data" (.int 5))
  let kind ← moveKind (d.field "movement_type" (.int 0))
  let zone ← zonePart (d.field "zone_data" (.int 0))
  let tool ← c.toolPart (d.field "tool" .null)
  let workObject ← c.workObjectPart (d.field "work_object" (.record []))
  let output ← outputPart (d.field "digital_output" .null)
  return ⟨target, speed, kind, zone, tool, workObject, output⟩

/-! ### Values of any kind -/

/-- The value of the fields of a record of a kind; a joint declaration is given its position. -/
def fieldsOf (c : Decoder) (d : Datum) (position : Checked Entity) : Tag → Checked Entity
  | .robotJoints => do return .joints ⟨.robot, ← Joints.ofData (← jointValues d)⟩
  | .externalJoints => do return .joints ⟨.external, ← Joints.ofNullable (← jointValues d)⟩
  | .speed => do return .speed (← speedFields d)
  | .zone => do return .zone (← zoneFields d)
  | .workObject => do return .workObject (← c.workObjectFields d)
  | .tool => do return .tool (← toolFields d)
  | .target => do return .target (← targetFields d)
  | .comment => do
    let text ← d.required "text"
    return .action (.comment (← Comment.make text (← sectionField d)))
  | .timer => do return .action (.timer (← Timer.make (← d.required "duration")))
  | .output => do return .action (.output (← outputFields d))
  | .wait => do
    return .action (.wait (← InputWait.make (← d.required "name") (d.field "value" (.bool true))))
  | .freeConfiguration => .ok (.action (.freeConfiguration (d.field "enabled" (.bool true))))
  | .code => do
    let code ← d.required "code"
    return .action (.code (← CodeLine.make code (← sectionField d)))
  | .jointDeclaration => do
    let name ← d.required "name"
    let position ← position
    let name ← JointDeclaration.checkName name
    match position with
    | .joints v => return .action (.joints ⟨name, v⟩)
    | _ => .error (ActionFault.jointPositionKind name.text)
  | .movement => do return .action (.movement (← c.movementFields d))

/-- The value of a record.  A tag that asks for a comparison gives no value. -/
def decode? (c : Decoder) (d : Datum) : Checked (Option Entity) := do
  let type ← checkRecord d none
  match request type with
  | .kind tag =>
    let position : Checked Entity :=
      match _h : d.get? "position" with
      | none => .error (Misuse.missing (.text "position"))
      | some inner => do
        match ← decode? c inner with
        | some v => pure v
        | none => do
          let name ← JointDeclaration.checkName (← d.required "name")
          .error (ActionFault.jointPositionKind name.text)
    return some (← c.fieldsOf d position tag)
  | .part tag => .error (ConfigurationFault.otherType tag.word type d)
  | .operation => .error Misuse.illTyped
  | .comparison => return none
  | .unknown => .error (ConfigurationFault.unknownType type)
termination_by sizeOf d
decreasing_by exact Datum.sizeOf_get?_lt _h

/-- A misuse of serialized data, as a fault of the data. -/
def asInvalid (d : Datum) : Fault → Fault
  | .misuse m =>
    match m.described with
    | some text => .configuration (.invalidValue text ((d.get? "type").getD .null))
    | none => .misuse m
  | f => f

/-- The value of a record, with misuses of the data reported as invalid data. -/
def read? (c : Decoder) (d : Datum) : Checked (Option Entity) :=
  (c.decode? d).mapError (asInvalid d)

/-- The values of a list of records. -/
def readAll (c : Decoder) (items : List Datum) : Checked (List (Option Entity)) :=
  items.mapM c.read?

end Decoder

end SixAxis
