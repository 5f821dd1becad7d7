import SixAxis.Program.Decode
import SixAxis.Proofs.DeclarationItems
import SixAxis.Proofs.UnconnectedSlots

/-!
# Actions read back

An action that is written as a record and read back is the same but for three things.  The tool of
a movement has lost its shape.  The axis of a work object is the one that the robot has under the
name.  And a slot of external axes that counts as unconnected holds the marker itself.

Every frame is built again from its parts, so this holds for frames that come out the same.

* `Frame.IsRebuilt` — a frame that is the same when it is built again;
* `Action.restored` — what an action is read back as;
* `Decoder.decode?_action` — **an action is read back** as that;
* `Decoder.readAll_toData` — all actions of a program are.
-/

namespace SixAxis

/-! ### Fields of records -/

/-- What is written where something can be missing: null for nothing. -/
def orNull {α : Type} (write : α → Datum) : Option α → Datum
  | none => .null
  | some a => write a

namespace Datum

@[simp]
theorem lookup_cons (key name : String) (v : Datum) (rest : Fields) :
    lookup ((.text key, v) :: rest) name = if key == name then some v else lookup rest name := by
  simp only [lookup, List.find?_cons, isText]
  cases key == name with
  | true => rfl
  | false => rfl

@[simp]
theorem get?_tagged (tag : Tag) (fields : Fields) (name : String) :
    (tagged tag fields).get? name =
      lookup (("type", .text tag.word) :: ("version", .int schemaVersion) :: fields) name := rfl

theorem required_of_get? {d v : Datum} {name : String} (h : d.get? name = some v) :
    d.required name = .ok v := by
  rw [required, h]

theorem field_of_get? {d v : Datum} {name : String} (h : d.get? name = some v) (absent : Datum) :
    d.field name absent = v := by
  rw [field, h]
  rfl

theorem optional?_of_get? {d v : Datum} {name : String} (h : d.get? name = some v)
    (hv : v ≠ .null) : d.optional? name = some v := by
  rw [optional?, h]
  cases v with
  | null => exact absurd rfl hv
  | _ => rfl

end Datum

theorem Tag.ofWord?_word (tag : Tag) : Tag.ofWord? tag.word = some tag := by
  cases tag <;> decide +kernel

namespace Decoder

theorem request_word (tag : Tag) : request (.text tag.word) = .kind tag := by
  rw [request, Tag.ofWord?_word]

theorem checkRecord_tagged (tag : Tag) (fields : Datum.Fields) {expected : Option Tag}
    (h : expected = none ∨ expected = some tag) :
    checkRecord (tagged tag fields) expected = .ok (.text tag.word) := by
  have htype (absent : Datum) : (tagged tag fields).field "type" absent = .text tag.word := by
    simp only [Datum.field, Datum.get?_tagged, Datum.lookup_cons, String.reduceBEq, if_true,
      Option.getD_some]
  have hversion (absent : Datum) :
      (tagged tag fields).field "version" absent = .int schemaVersion := by
    simp only [Datum.field, Datum.get?_tagged, Datum.lookup_cons, String.reduceBEq,
      Bool.false_eq_true, ↓reduceIte, Option.getD_some]
  have hsame : (Datum.text tag.word).same (.text tag.word) = true := by
    rw [Datum.same, beq_self_eq_true]
  unfold checkRecord
  rw [htype, hversion]
  rcases h with rfl | rfl
  · rfl
  · exact if_pos hsame

end Decoder

/-! ### Frames -/

/-- A frame that is the same when it is built again from its own point and axes. -/
def Frame.IsRebuilt (f : Frame Float) : Prop := Frame.ofAxes f.point f.xaxis f.yaxis = .ok f

deriving instance DecidableEq for Vec, Frame

instance (f : Frame Float) : Decidable f.IsRebuilt :=
  match hbuilt : Frame.ofAxes f.point f.xaxis f.yaxis with
  | .ok g =>
    if hsame : g = f then .isTrue (hbuilt.trans (congrArg Except.ok hsame))
    else .isFalse fun h => hsame (Except.ok.inj (hbuilt.symm.trans h))
  | .error _ => .isFalse fun h => nomatch hbuilt.symm.trans h

namespace Frame

variable {f : Frame Float}

/-- Reading a frame back builds it again from its own point and axes. -/
theorem ofData_toData (f : Frame Float) :
    ofData f.toData = ofAxes f.point f.xaxis f.yaxis := by
  simp only [ofData, toData, Datum.field, Datum.get?, Datum.lookup_cons, String.reduceBEq,
    Bool.false_eq_true, ↓reduceIte, Option.getD_some]
  rfl

theorem IsRebuilt.ofData_toData (h : f.IsRebuilt) : ofData f.toData = .ok f :=
  (Frame.ofData_toData f).trans h

theorem IsRebuilt.copied_eq (h : f.IsRebuilt) : f.copied = f := by
  rw [copied, show ofAxes f.point f.xaxis f.yaxis = .ok f from h]
  exact ite_self f

end Frame

/-! ### Joint vectors -/

namespace Joints

variable {kind : JointKind}

theorem mapM_toReal (values : List Float) :
    (values.map Datum.real).mapM Datum.toReal = .ok values := by
  induction values with
  | nil => rfl
  | cons x rest ih =>
    rw [List.map_cons, List.mapM_cons, ih]
    rfl

theorem ofValues_toList (j : Joints kind Float) : ofValues j.toList = j := by
  refine ext_get fun i => ?_
  rw [get_ofValues, toList_eq]
  simp

/-- The listed values of a vector are read back as the vector. -/
theorem ofData_toList (j : Joints kind Float) : ofData (j.toList.map .real) = .ok j := by
  have hlength : ¬ 6 < (j.toList.map Datum.real).length := by
    rw [List.length_map, toList_eq, List.length_map, List.length_finRange]
    decide
  -- none of the values is a list that could stand for all of them
  have hlisted : ∀ items, j.toList.map Datum.real = [.list items] → False := by
    intro items h
    rw [toList_eq] at h
    cases h
  rw [ofData]
  · show (if 6 < (j.toList.map Datum.real).length then _ else _) = _
    rw [if_neg hlength]
    show ((j.toList.map Datum.real).mapM Datum.toReal >>= fun values => _) = _
    rw [mapM_toReal]
    exact congrArg Except.ok j.ofValues_toList
  · exact hlisted

/-- A vector whose unconnected slots are null is read back with the marker in them. -/
theorem ofNullable_toNullable (j : Joints kind Float) :
    ofNullable (j.toList.map fun v => if isUnconnected v then .null else .real v) =
      .ok j.marked := by
  rw [← ofData_toList j.marked, ofNullable, toList_eq, toList_eq, List.map_map, List.map_map,
    List.map_map]
  refine congrArg ofData (List.map_congr_left fun i _ => ?_)
  rw [Function.comp_apply, Function.comp_apply, Function.comp_apply, get_marked]
  by_cases hi : isUnconnected (j.get i) = true
  · rw [if_pos hi, if_pos hi]
  · rw [if_neg hi, if_neg hi]
    rfl

end Joints

/-! ### Parts of movements -/

theorem Identifier.ofData_text (i : Identifier) (bad : Fault) :
    Identifier.ofData (.text i.text) bad = .ok i :=
  dif_pos i.valid

theorem SpeedData.make_parts (s : SpeedData) :
    make (.text s.name.text) (.number s.tcp) (.number s.turning) (.number s.linearAxes)
      (.number s.rotaryAxes) s.predefined = .ok s := by
  rw [make, Identifier.ofData_text]
  exact dif_neg (Bool.eq_false_iff.1 s.nonnegative)

theorem ZoneData.make_parts (z : ZoneData) :
    make (.text z.name.text) z.stops (.number z.sizes.path) (.number z.sizes.turning)
      (.number z.sizes.axes) (.number z.sizes.turningAngle) (.number z.sizes.linearAxes)
      (.number z.sizes.rotaryAxes) z.predefined = .ok z := by
  have hsizes : ofSizes (.text z.name.text) z.stops z.sizes z.predefined = .ok z := by
    rw [ofSizes, Identifier.ofData_text]
    exact dif_neg (Bool.eq_false_iff.1 z.nonnegative)
  rw [make, Identifier.ofData_text]
  exact hsizes

/-- A tool without its shape. -/
def Tool.bare (t : Tool Float) : Tool Float := { t with mesh := .empty }

/-- A target with the marker in all unconnected slots. -/
def Target.marked (t : Target) : Target := { t with external := t.external.marked }

theorem Target.make_parts (t : Target) (h : t.frame.IsRebuilt) :
    make (.text t.name.text) t.frame
      (orNull .number t.configuration) t.external.marked = .ok t.marked := by
  obtain ⟨name, frame, configuration, external, hrange⟩ := t
  rw [make, Identifier.ofData_text]
  cases configuration with
  | none =>
    show Except.ok _ = _
    rw [h.copied_eq]
    rfl
  | some n =>
    rw [h.copied_eq]
    exact dif_pos hrange

theorem DigitalOutput.make_parts (d : DigitalOutput) :
    make (.text d.name.text) d.active = .ok d := by
  rw [make, signalName, Identifier.ofData_text]
  rfl

theorem Tool.make_parts (t : Tool Float) (hattachment : t.attachment.IsRebuilt)
    (htcp : t.tcp.IsRebuilt) :
    (if !t.name.isTruthy then .error RobotFault.unnamedTool
      else make t.name t.attachment t.tcp t.mass) = .ok t.bare := by
  rw [t.named, make, dif_pos t.named, dif_neg t.heavy, hattachment.copied_eq, htcp.copied_eq]
  rfl

namespace Decoder

theorem frameField_of_get? {d : Datum} {name : String} {f : Frame Float}
    (hget : d.get? name = some f.toData) (h : f.IsRebuilt) : frameField d name = .ok f := by
  rw [frameField, Datum.field_of_get? hget, h.ofData_toData]

theorem speedFields_toData (s : SpeedData) : speedFields s.toData = .ok s := by
  simp only [speedFields, SpeedData.toData, Datum.required, Datum.field, Datum.get?_tagged,
    Datum.lookup_cons, String.reduceBEq, Bool.false_eq_true, ↓reduceIte, Option.getD_some]
  exact s.make_parts

theorem zoneFields_toData (z : ZoneData) : zoneFields z.toData = .ok z := by
  simp only [zoneFields, ZoneData.toData, Datum.required, Datum.field, Datum.get?_tagged,
    Datum.lookup_cons, String.reduceBEq, Bool.false_eq_true, ↓reduceIte, Option.getD_some]
  exact z.make_parts

theorem toolFields_toData (t : Tool Float) (hattachment : t.attachment.IsRebuilt)
    (htcp : t.tcp.IsRebuilt) : toolFields t.toData = .ok t.bare := by
  have hname : t.toData.required "name" = .ok t.name :=
    Datum.required_of_get? (by simp [Tool.toData])
  have hattachmentField : frameField t.toData "attachment_frame" = .ok t.attachment :=
    frameField_of_get? (by simp [Tool.toData]) hattachment
  have htcpField : frameField t.toData "tool_frame" = .ok t.tcp :=
    frameField_of_get? (by simp [Tool.toData]) htcp
  have hmass : t.toData.field "mass" (.number Tool.standardMass) = .number t.mass :=
    Datum.field_of_get? (by simp [Tool.toData]) _
  rw [toolFields, hname, hattachmentField, htcpField, hmass]
  exact t.make_parts hattachment htcp

theorem outputFields_toData (d : DigitalOutput) : outputFields d.toData = .ok d := by
  simp only [outputFields, DigitalOutput.toData, Datum.required, Datum.field, Datum.get?_tagged,
    Datum.lookup_cons, String.reduceBEq, Bool.false_eq_true, ↓reduceIte, Option.getD_some]
  exact d.make_parts

theorem targetFields_toData (t : Target) (h : t.frame.IsRebuilt) :
    targetFields t.toData = .ok t.marked := by
  have hname : t.toData.required "name" = .ok (.text t.name.text) :=
    Datum.required_of_get? (by simp [Target.toData])
  have hframe : frameField t.toData "frame" = .ok t.frame :=
    frameField_of_get? (by simp [Target.toData]) h
  have hexternal : t.toData.field "external_joint_position" (.list []) = t.external.toNullable :=
    Datum.field_of_get? (by simp [Target.toData]) _
  have hconfiguration : t.toData.field "axis_config" .null = orNull .number t.configuration :=
    Datum.field_of_get? (by simp [Target.toData]; cases t.configuration <;> rfl) _
  rw [targetFields, hname, hframe, hexternal, hconfiguration]
  show (Joints.ofNullable _ >>= fun external => _) = _
  rw [Joints.ofNullable_toNullable]
  exact t.make_parts h

end Decoder

/-! ### Work objects -/

/-- A work object whose axis is the one that a robot has under its name. -/
def WorkObject.reattached (w : WorkObject) (r : Robot Float) : WorkObject :=
  { w with axis := w.axis.bind fun a => (r.axisNamed a.name).map (·.toAxis) }

/-- A robot has an axis under the very name of a given one. -/
def Robot.HasAxis (r : Robot Float) (a : ExternalAxis Float) : Prop :=
  ∃ b, r.axisNamed a.name = some b ∧ b.axis.name = a.name

/-- An axis of this name is attached exactly if the robot finds one under it. -/
theorem Robot.isAttached_iff {r : Robot Float} {a : ExternalAxis Float} :
    r.isAttached a = true ↔ ∃ b, r.axisNamed a.name = some b := by
  rw [isAttached, List.any_eq_true, ← Option.isSome_iff_exists, axisNamed, List.find?_isSome]

theorem Robot.HasAxis.isAttached {r : Robot Float} {a : ExternalAxis Float} (h : r.HasAxis a) :
    r.isAttached a = true := by
  obtain ⟨b, hb, -⟩ := h
  exact isAttached_iff.2 ⟨b, hb⟩

namespace Decoder

variable {c : Decoder} {r : Robot Float}

theorem namedAxis_toData (hrobot : c.robot = some r) (w : WorkObject)
    (hattached : ∀ a, w.axis = some a → r.isAttached a = true) :
    c.namedAxis w.toData = .ok (w.reattached r).axis := by
  have hget : w.toData.get? "external_axis" = some (orNull (·.name) w.axis) := by
    simp [WorkObject.toData]
    cases w.axis <;> rfl
  rw [namedAxis, WorkObject.reattached]
  cases haxis : w.axis with
  | none =>
    rw [haxis] at hget
    rw [Datum.optional?, hget]
    rfl
  | some a =>
    obtain ⟨b, hb⟩ := Robot.isAttached_iff.1 (hattached a haxis)
    have hname : a.name ≠ .null := by
      intro hnull
      have hnamed := a.named
      rw [hnull] at hnamed
      cases hnamed
    rw [haxis] at hget
    rw [Datum.optional?_of_get? hget hname, hrobot]
    simp only [orNull, hb, Option.bind_some, Option.map_some]

theorem workObjectFields_toData (hrobot : c.robot = some r) (w : WorkObject)
    (hattached : ∀ a, w.axis = some a → r.isAttached a = true) (huser : w.userFrame.IsRebuilt)
    (hobject : w.objectFrame.IsRebuilt) :
    c.workObjectFields w.toData = .ok (w.reattached r) := by
  have huserFrame : frameField w.toData "user_frame" = .ok w.userFrame :=
    frameField_of_get? (by simp [WorkObject.toData]) huser
  have hobjectFrame : frameField w.toData "object_frame" = .ok w.objectFrame :=
    frameField_of_get? (by simp [WorkObject.toData]) hobject
  have hname : w.toData.field "name" (.text WorkObject.standardName) = .text w.name.text :=
    Datum.field_of_get? (by simp [WorkObject.toData]) _
  have hheld : w.toData.field "robot_hold" (.bool false) = w.held :=
    Datum.field_of_get? (by simp [WorkObject.toData]) _
  rw [workObjectFields, namedAxis_toData hrobot w hattached, huserFrame, hobjectFrame, hname, hheld]
  show WorkObject.make _ _ _ _ _ = _
  rw [WorkObject.make, Identifier.ofData_text]
  rfl

end Decoder

/-! ### Movements -/

/-- The frames that a movement is written with. -/
def Movement.frames (m : Movement) : List (Frame Float) :=
  m.target.frame :: m.workObject.userFrame :: m.workObject.objectFrame ::
    m.tool.toList.flatMap fun t => [t.attachment, t.tcp]

/-- What a movement is read back as. -/
def Movement.restored (m : Movement) (r : Robot Float) : Movement :=
  { m with
    target := m.target.marked
    tool := m.tool.map Tool.bare
    workObject := m.workObject.reattached r }

/-- A movement that can be read back: an axis of the name of that of its work object is attached
to a robot, and all its frames are the same when they are built again. -/
structure Movement.Readable (m : Movement) (r : Robot Float) : Prop where
  attached : ∀ a, m.workObject.axis = some a → r.isAttached a = true
  rebuilt : ∀ f ∈ m.frames, f.IsRebuilt

/-- A movement that is read back with an axis of the same name, where its work object has one. -/
structure Movement.Restorable (m : Movement) (r : Robot Float) : Prop where
  attached : ∀ a, m.workObject.axis = some a → r.HasAxis a
  rebuilt : ∀ f ∈ m.frames, f.IsRebuilt

theorem Movement.Restorable.readable {m : Movement} {r : Robot Float} (h : m.Restorable r) :
    m.Readable r :=
  ⟨fun a ha => (h.attached a ha).isAttached, h.rebuilt⟩

namespace Decoder

variable {c : Decoder} {r : Robot Float}

theorem speedPart_toData (s : SpeedData) : speedPart s.toData = .ok s := by
  show (checkRecord s.toData (some .speed) >>= fun _ => speedFields s.toData) = _
  rw [speedFields_toData, SpeedData.toData, checkRecord_tagged _ _ (.inr rfl)]
  rfl

theorem zonePart_toData (z : ZoneData) : zonePart z.toData = .ok z := by
  show (checkRecord z.toData (some .zone) >>= fun _ => zoneFields z.toData) = _
  rw [zoneFields_toData, ZoneData.toData, checkRecord_tagged _ _ (.inr rfl)]
  rfl

theorem moveKind_number (k : MoveKind) : moveKind (.int k.number) = .ok k := by
  cases k <;> rfl

theorem targetPart_toData (t : Target) (h : t.frame.IsRebuilt) :
    targetPart t.toData = .ok t.marked := by
  rw [targetPart, targetFields_toData t h, Target.toData, checkRecord_tagged _ _ (.inr rfl)]
  rfl

theorem toolPart_toData {tool : Option (Tool Float)}
    (h : ∀ t, tool = some t → t.attachment.IsRebuilt ∧ t.tcp.IsRebuilt) :
    c.toolPart (orNull Tool.toData tool) = .ok (tool.map Tool.bare) := by
  cases tool with
  | none => rfl
  | some t =>
    obtain ⟨hattachment, htcp⟩ := h t rfl
    show (checkRecord t.toData (some .tool) >>= fun _ => toolFields t.toData >>= fun t => _) = _
    rw [toolFields_toData t hattachment htcp, Tool.toData, checkRecord_tagged _ _ (.inr rfl)]
    rfl

theorem workObjectPart_toData (hrobot : c.robot = some r) (w : WorkObject)
    (hattached : ∀ a, w.axis = some a → r.isAttached a = true) (huser : w.userFrame.IsRebuilt)
    (hobject : w.objectFrame.IsRebuilt) :
    c.workObjectPart w.toData = .ok (w.reattached r) := by
  rw [workObjectPart, workObjectFields_toData hrobot w hattached huser hobject, WorkObject.toData,
    checkRecord_tagged _ _ (.inr rfl)]
  rfl

theorem outputPart_toData (output : Option DigitalOutput) :
    outputPart (orNull DigitalOutput.toData output) = .ok output := by
  cases output with
  | none => rfl
  | some d =>
    show (checkRecord d.toData (some .output) >>= fun _ => outputFields d.toData >>= fun d => _) = _
    rw [outputFields_toData, DigitalOutput.toData, checkRecord_tagged _ _ (.inr rfl)]
    rfl

theorem movementFields_toData (hrobot : c.robot = some r) (m : Movement) (h : m.Readable r) :
    c.movementFields m.toData = .ok (m.restored r) := by
  have hframe : m.target.frame.IsRebuilt := h.rebuilt _ (by simp [Movement.frames])
  have huser : m.workObject.userFrame.IsRebuilt := h.rebuilt _ (by simp [Movement.frames])
  have hobject : m.workObject.objectFrame.IsRebuilt := h.rebuilt _ (by simp [Movement.frames])
  have htools : ∀ t, m.tool = some t → t.attachment.IsRebuilt ∧ t.tcp.IsRebuilt := fun t ht =>
    ⟨h.rebuilt _ (by simp [Movement.frames, ht]), h.rebuilt _ (by simp [Movement.frames, ht])⟩
  have hrecord : m.toData.required "target" = .ok m.target.toData :=
    Datum.required_of_get? (by simp [Movement.toData])
  have hspeed : speedPart (m.toData.field "speed_data" (.int 5)) = .ok m.speed := by
    rw [Datum.field_of_get? (v := m.speed.toData) (by simp [Movement.toData]), speedPart_toData]
  have hkind : moveKind (m.toData.field "movement_type" (.int 0)) = .ok m.kind := by
    rw [Datum.field_of_get? (v := .int m.kind.number) (by simp [Movement.toData]), moveKind_number]
  have hzone : zonePart (m.toData.field "zone_data" (.int 0)) = .ok m.zone := by
    rw [Datum.field_of_get? (v := m.zone.toData) (by simp [Movement.toData]), zonePart_toData]
  have htool : c.toolPart (m.toData.field "tool" .null) = .ok (m.tool.map Tool.bare) := by
    rw [Datum.field_of_get? (v := orNull Tool.toData m.tool)
      (by simp [Movement.toData]; cases m.tool <;> rfl), toolPart_toData htools]
  have hworkObject : c.workObjectPart (m.toData.field "work_object" (.record [])) =
      .ok (m.workObject.reattached r) := by
    rw [Datum.field_of_get? (v := m.workObject.toData) (by simp [Movement.toData]),
      workObjectPart_toData hrobot _ h.attached huser hobject]
  have houtput : outputPart (m.toData.field "digital_output" .null) = .ok m.output := by
    rw [Datum.field_of_get? (v := orNull DigitalOutput.toData m.output)
      (by simp [Movement.toData]; cases m.output <;> rfl), outputPart_toData]
  rw [movementFields, hspeed, hkind, hzone, htool, hworkObject, houtput]
  exact bind_eq_ok.2 ⟨_, hrecord, bind_eq_ok.2 ⟨_, targetPart_toData _ hframe, rfl⟩⟩

end Decoder

/-! ### Actions -/

/-- What a joint vector is read back as. -/
def JointVector.restored : JointVector Float → JointVector Float
  | ⟨.robot, j⟩ => ⟨.robot, j⟩
  | ⟨.external, j⟩ => ⟨.external, j.marked⟩

/-- What an action is read back as. -/
def Action.restored (a : Action) (r : Robot Float) : Action :=
  match a with
  | .joints j => .joints { j with position := j.position.restored }
  | .movement m => .movement (m.restored r)
  | a => a

/-- The movements among some actions can all be read back. -/
def Restorable (actions : List Action) (r : Robot Float) : Prop :=
  ∀ m, .movement m ∈ actions → m.Restorable r

theorem Comment.make_parts (c : Comment) : make c.text c.place = .ok c := dif_pos c.nonempty

theorem CodeLine.make_parts (c : CodeLine) : make (.text c.code) c.place = .ok c :=
  dif_neg c.nonblank

theorem Timer.make_parts (t : Timer) : make (.number t.duration) = .ok t := dif_neg t.nonnegative

theorem InputWait.make_parts (w : InputWait) : make (.text w.name.text) w.value = .ok w := by
  rw [make, signalName, Identifier.ofData_text]
  rfl

theorem Section.ofData_word (place : Section) : ofData (.text place.word) = .ok place := by
  cases place <;> rfl

namespace Decoder

variable {c : Decoder} {r : Robot Float} {tag : Tag} {fields : Datum.Fields} {e : Entity}

/-- A record that passes the checks of its kind is read from its fields, whatever its position is
read as. -/
theorem decode?_of_checkRecord {d : Datum} (hd : checkRecord d none = .ok (.text tag.word))
    (hfields : ∀ position, (∀ inner, d.get? "position" = some inner → ∀ v,
      c.decode? inner = .ok (some v) → position = .ok v) → c.fieldsOf d position tag = .ok e) :
    c.decode? d = .ok (some e) := by
  unfold decode?
  refine bind_eq_ok.2 ⟨_, hd, ?_⟩
  simp only [request_word]
  refine bind_eq_ok.2 ⟨e, hfields _ ?_, rfl⟩
  intro inner hinner v hv
  split
  · rename_i hnone
    rw [hinner] at hnone
    cases hnone
  · rename_i found hfound
    rw [hinner] at hfound
    cases hfound
    rw [hv]
    rfl

/-- A serialized value is read from its fields. -/
theorem decode?_of_fields {d : Datum} (hd : ∃ fields, d = tagged tag fields)
    (hfields : ∀ position, (∀ inner, d.get? "position" = some inner → ∀ v,
      c.decode? inner = .ok (some v) → position = .ok v) → c.fieldsOf d position tag = .ok e) :
    c.decode? d = .ok (some e) := by
  obtain ⟨fields, rfl⟩ := hd
  exact decode?_of_checkRecord (checkRecord_tagged tag fields (.inl rfl)) hfields

theorem jointValues_of_get? {d : Datum} {values : List Datum}
    (h : d.get? "values" = some (.list values)) : jointValues d = .ok values := by
  rw [jointValues, Datum.field_of_get? h]
  rfl

theorem sectionField_of_get? {d : Datum} {place : Section}
    (h : d.get? "code_type" = some (.text place.word)) : sectionField d = .ok place := by
  rw [sectionField, Datum.field_of_get? h, Section.ofData_word]

/-- A joint vector is read back. -/
theorem decode?_jointVector (c : Decoder) (v : JointVector Float) :
    c.decode? v.toData = .ok (some (.joints v.restored)) := by
  obtain ⟨kind, j⟩ := v
  cases kind with
  | robot =>
    have hvalues : jointValues (JointVector.toData ⟨.robot, j⟩) = .ok (j.toList.map .real) :=
      jointValues_of_get? (by simp [JointVector.toData])
    refine decode?_of_fields ⟨_, rfl⟩ fun position _ => ?_
    rw [fieldsOf, hvalues]
    show (Joints.ofData (j.toList.map .real) >>= fun j => _) = _
    rw [Joints.ofData_toList]
    rfl
  | external =>
    have hvalues : jointValues (JointVector.toData ⟨.external, j⟩) =
        .ok (j.toList.map fun v => if isUnconnected v then .null else .real v) :=
      jointValues_of_get? (by simp [JointVector.toData, Joints.toNullable])
    refine decode?_of_fields ⟨_, rfl⟩ fun position _ => ?_
    rw [fieldsOf, hvalues]
    show (Joints.ofNullable _ >>= fun j => _) = _
    rw [Joints.ofNullable_toNullable]
    rfl

theorem decode?_jointDeclaration (c : Decoder) (j : JointDeclaration) :
    c.decode? (Action.joints j).toData =
      .ok (some (.action (.joints { j with position := j.position.restored }))) := by
  have hname : (Action.joints j).toData.required "name" = .ok (.text j.name.text) :=
    Datum.required_of_get? (by simp [Action.toData])
  have hget : (Action.joints j).toData.get? "position" = some j.position.toData := by
    simp [Action.toData]
  refine decode?_of_fields ⟨_, rfl⟩ fun position hposition => ?_
  rw [fieldsOf, hname, hposition _ hget _ (c.decode?_jointVector j.position)]
  show (JointDeclaration.checkName (.text j.name.text) >>= fun name => _) = _
  rw [JointDeclaration.checkName, signalName, Identifier.ofData_text]
  rfl

/-- **An action is read back**, with the parts of a movement as they are read back. -/
theorem decode?_action (hrobot : c.robot = some r) (a : Action)
    (h : ∀ m, a = .movement m → m.Readable r) :
    c.decode? a.toData = .ok (some (.action (a.restored r))) := by
  cases a with
  | comment x =>
    have htext : (Action.comment x).toData.required "text" = .ok x.text :=
      Datum.required_of_get? (by simp [Action.toData])
    have hplace : sectionField (Action.comment x).toData = .ok x.place :=
      sectionField_of_get? (by simp [Action.toData])
    refine decode?_of_fields ⟨_, rfl⟩ fun position _ => ?_
    rw [fieldsOf]
    exact bind_eq_ok.2 ⟨_, htext, bind_eq_ok.2 ⟨_, hplace, bind_eq_ok.2 ⟨x, x.make_parts, rfl⟩⟩⟩
  | timer x =>
    have hduration : (Action.timer x).toData.required "duration" = .ok (.number x.duration) :=
      Datum.required_of_get? (by simp [Action.toData])
    refine decode?_of_fields ⟨_, rfl⟩ fun position _ => ?_
    rw [fieldsOf]
    exact bind_eq_ok.2 ⟨_, hduration, bind_eq_ok.2 ⟨x, x.make_parts, rfl⟩⟩
  | output x =>
    refine decode?_of_fields ⟨_, rfl⟩ fun position _ => ?_
    rw [fieldsOf, Action.toData, outputFields_toData]
    rfl
  | wait x =>
    have hname : (Action.wait x).toData.required "name" = .ok (.text x.name.text) :=
      Datum.required_of_get? (by simp [Action.toData])
    have hvalue : (Action.wait x).toData.field "value" (.bool true) = x.value :=
      Datum.field_of_get? (by simp [Action.toData]) _
    refine decode?_of_fields ⟨_, rfl⟩ fun position _ => ?_
    rw [fieldsOf, hvalue]
    exact bind_eq_ok.2 ⟨_, hname, bind_eq_ok.2 ⟨x, x.make_parts, rfl⟩⟩
  | freeConfiguration enabled =>
    have henabled :
        (Action.freeConfiguration enabled).toData.field "enabled" (.bool true) = enabled :=
      Datum.field_of_get? (by simp [Action.toData]) _
    refine decode?_of_fields ⟨_, rfl⟩ fun position _ => ?_
    rw [fieldsOf, henabled]
    rfl
  | code x =>
    have hcode : (Action.code x).toData.required "code" = .ok (.text x.code) :=
      Datum.required_of_get? (by simp [Action.toData])
    have hplace : sectionField (Action.code x).toData = .ok x.place :=
      sectionField_of_get? (by simp [Action.toData])
    refine decode?_of_fields ⟨_, rfl⟩ fun position _ => ?_
    rw [fieldsOf]
    exact bind_eq_ok.2 ⟨_, hcode, bind_eq_ok.2 ⟨_, hplace, bind_eq_ok.2 ⟨x, x.make_parts, rfl⟩⟩⟩
  | joints j => exact c.decode?_jointDeclaration j
  | movement m =>
    refine decode?_of_fields ⟨_, rfl⟩ fun position _ => ?_
    rw [fieldsOf, Action.toData, movementFields_toData hrobot m (h m rfl)]
    rfl

/-- All actions are read back. -/
theorem readAll_toData (hrobot : c.robot = some r) {actions : List Action}
    (h : Restorable actions r) :
    c.readAll (actions.map Action.toData) = .ok (programOf (actions.map (·.restored r))) := by
  induction actions with
  | nil => rfl
  | cons a rest ih =>
    have hfirst : c.read? a.toData = .ok (some (.action (a.restored r))) := by
      rw [read?, decode?_action hrobot a fun m hm => (h m (hm ▸ List.mem_cons_self)).readable]
      rfl
    have hrest : (rest.map Action.toData).mapM c.read? =
        .ok (programOf (rest.map (·.restored r))) :=
      ih fun m hm => h m (List.mem_cons_of_mem a hm)
    rw [readAll, List.map_cons, List.mapM_cons, hfirst, hrest]
    rfl

end Decoder

end SixAxis
