import SixAxis.Proofs.DecodedParts
import SixAxis.Proofs.Doubles
import SixAxis.Proofs.RestoredPrograms

/-!
# Values read back

Every value that is written as a record is read back as itself but for its tool's shape, the
marker in unconnected slots, and the axis of a work object, which is the robot's first one of the
name.  So is every value that was read from data, however short: its axis was found by a name, and
is found again by its own.

The frames of a value have to be exactly orthonormal, so that building them again does not round.

* `Frame.IsExact` — a frame whose directions are orthonormal without rounding;
* `Entity.restored` — what a value is read back as;
* `Decoder.decode?_toData` — **a written value is read back** as that;
* `Decoder.isAttached_of_decode?` — the axis of a value that was read is attached to the robot;
* `Decoder.read?_toData` — **reading undoes writing**, for values and for data.
-/

namespace SixAxis

/-! ### Exact frames -/

/-- A frame whose three directions are unit vectors at right angles without any rounding: each is
its own direction, and the second one is the product of the third and the first. -/
structure Frame.IsExact (f : Frame Float) : Prop where
  xaxis_unit : f.xaxis.unit = .ok f.xaxis
  yaxis_unit : f.yaxis.unit = .ok f.yaxis
  zaxis_unit : f.zaxis.unit = .ok f.zaxis
  completed : f.zaxis.cross f.xaxis = f.yaxis

/-- An exact frame is the same when it is built again. -/
theorem Frame.IsExact.isRebuilt {f : Frame Float} (h : f.IsExact) : f.IsRebuilt := by
  have hz : (f.xaxis.cross f.yaxis).unit = .ok f.zaxis := h.zaxis_unit
  rw [IsRebuilt, ofAxes, h.xaxis_unit, h.yaxis_unit]
  show ((f.xaxis.cross f.yaxis).unit >>= fun z => _) = _
  rw [hz]
  show Except.ok (⟨f.point, f.xaxis, f.zaxis.cross f.xaxis⟩ : Frame Float) = _
  rw [h.completed]

/-- Whether a frame is the same does not depend on where it is. -/
theorem Frame.IsRebuilt.with_point {f : Frame Float} (h : f.IsRebuilt) (p : Vec Float) :
    ({ f with point := p } : Frame Float).IsRebuilt := by
  obtain ⟨x, hx, h⟩ := bind_eq_ok.1 h
  obtain ⟨y, hy, h⟩ := bind_eq_ok.1 h
  obtain ⟨z, hz, h⟩ := bind_eq_ok.1 h
  refine bind_eq_ok.2 ⟨x, hx, bind_eq_ok.2 ⟨y, hy, bind_eq_ok.2 ⟨z, hz, ?_⟩⟩⟩
  exact congrArg (fun g : Frame Float => Except.ok { g with point := p }) (Except.ok.inj h)

theorem Frame.isExact_world : (world : Frame Float).IsExact := by
  have hunit (v : Vec Float) (hsquares : v.overflows = false) (hlength : (v.length == 0.0) = false)
      (hsame : v.shrink v.length = v) : v.unit = .ok v := by
    rw [Vec.unit, hsquares, hlength]
    exact congrArg Except.ok hsame
  refine ⟨?_, ?_, ?_, by decide +kernel⟩
  · exact hunit _ (by decide +kernel) (by decide +kernel) (by decide +kernel)
  · exact hunit _ (by decide +kernel) (by decide +kernel) (by decide +kernel)
  · exact hunit _ (by decide +kernel) (by decide +kernel) (by decide +kernel)

/-! ### Values -/

namespace Entity

/-- The external axes that a value names. -/
def axes : Entity → List (ExternalAxis Float)
  | workObject w => w.axis.toList
  | action (.movement m) => m.workObject.axis.toList
  | _ => []

/-- The frames that a value is written with. -/
def frames : Entity → List (Frame Float)
  | workObject w => [w.userFrame, w.objectFrame]
  | tool t => [t.attachment, t.tcp]
  | target t => [t.frame]
  | action (.movement m) => m.frames
  | _ => []

/-- What a value is read back as. -/
def restored (r : Robot Float) : Entity → Entity
  | joints v => joints v.restored
  | speed s => speed s
  | zone z => zone z
  | workObject w => workObject (w.reattached r)
  | tool t => tool t.bare
  | target t => target t.marked
  | action a => action (a.restored r)

end Entity

namespace Decoder

variable {c : Decoder} {r : Robot Float}

/-- **A written value is read back** up to what is not written. -/
theorem decode?_toData (hrobot : c.robot = some r) (e : Entity)
    (hattached : ∀ a ∈ e.axes, r.isAttached a = true) (hrebuilt : ∀ f ∈ e.frames, f.IsRebuilt) :
    c.decode? e.toData = .ok (some (e.restored r)) := by
  cases e with
  | joints v => exact c.decode?_jointVector v
  | speed s =>
    refine decode?_of_fields ⟨_, rfl⟩ fun position _ => ?_
    rw [fieldsOf, Entity.toData, speedFields_toData]
    rfl
  | zone z =>
    refine decode?_of_fields ⟨_, rfl⟩ fun position _ => ?_
    rw [fieldsOf, Entity.toData, zoneFields_toData]
    rfl
  | workObject w =>
    refine decode?_of_fields ⟨_, rfl⟩ fun position _ => ?_
    rw [fieldsOf, Entity.toData, workObjectFields_toData hrobot w]
    · rfl
    · exact fun a ha => hattached a (Option.mem_toList.2 ha)
    · exact hrebuilt _ List.mem_cons_self
    · exact hrebuilt _ (List.mem_cons_of_mem _ List.mem_cons_self)
  | tool t =>
    refine decode?_of_fields ⟨_, rfl⟩ fun position _ => ?_
    rw [fieldsOf, Entity.toData, toolFields_toData t]
    · rfl
    · exact hrebuilt _ List.mem_cons_self
    · exact hrebuilt _ (List.mem_cons_of_mem _ List.mem_cons_self)
  | target t =>
    refine decode?_of_fields ⟨_, rfl⟩ fun position _ => ?_
    rw [fieldsOf, Entity.toData, targetFields_toData t (hrebuilt _ List.mem_cons_self)]
    rfl
  | action a =>
    refine decode?_action hrobot a fun m hm => ?_
    subst hm
    exact ⟨fun a ha => hattached a (Option.mem_toList.2 ha), hrebuilt⟩

/-! ### Axes that were found -/

/-- An axis that was found by a name is found again by its own: its name equals the given one, and
so equals itself. -/
theorem isAttached_of_namedAxis (hrobot : c.robot = some r) {d : Datum} {a : ExternalAxis Float}
    (h : c.namedAxis d = .ok (some a)) : r.isAttached a = true := by
  rw [namedAxis, hrobot] at h
  cases hname : d.optional? "external_axis" with
  | none =>
    rw [hname] at h
    cases h
  | some name =>
    rw [hname] at h
    simp only at h
    cases hb : r.axisNamed name with
    | none =>
      rw [hb] at h
      cases h
    | some b =>
      rw [hb] at h
      cases h
      have hsame := List.find?_some hb
      exact List.any_eq_true.2 ⟨b, List.mem_of_find?_eq_some hb, Datum.same_self_of_same hsame⟩

theorem isAttached_of_workObjectFields (hrobot : c.robot = some r) {d : Datum} {w : WorkObject}
    (h : c.workObjectFields d = .ok w) {a : ExternalAxis Float} (ha : w.axis = some a) :
    r.isAttached a = true := by
  obtain ⟨axis, haxis, h⟩ := bind_eq_ok.1 h
  obtain ⟨user, -, h⟩ := bind_eq_ok.1 h
  obtain ⟨object, -, h⟩ := bind_eq_ok.1 h
  obtain ⟨name, -, h⟩ := bind_eq_ok.1 h
  cases h
  rw [show axis = some a from ha] at haxis
  exact isAttached_of_namedAxis hrobot haxis

/-- The axes of a value that was read for a robot are attached to it. -/
theorem isAttached_of_decode? (hrobot : c.robot = some r) {d : Datum} {e : Entity}
    (h : c.decode? d = .ok (some e)) : ∀ a ∈ e.axes, r.isAttached a = true := by
  intro a ha
  have hmade := madeOf_of_decode? h
  cases e with
  | workObject w => exact isAttached_of_workObjectFields hrobot hmade (Option.mem_toList.1 ha)
  | action action =>
    cases action with
    | movement m =>
      obtain ⟨tag, -, hfields⟩ := bind_eq_ok.1 hmade.workObject
      exact isAttached_of_workObjectFields hrobot hfields (Option.mem_toList.1 ha)
    | _ => cases ha
  | _ => cases ha

/-! ### Reading undoes writing -/

/-- **Reading undoes writing**, where frames are exact.  A value whose axes the robot has is read
back, and so is every value that a record was read as; what it is read back as differs only by the
shape of a tool, by the marker itself in unconnected slots, and by the axis of a work object, the
first one that the robot has under its name. -/
theorem read?_toData (r : Robot Float) :
    (∀ f : Frame Float, f.IsExact → f.IsRebuilt) ∧
      (∀ tools (e : Entity), (∀ a ∈ e.axes, r.isAttached a = true) →
        (∀ f ∈ e.frames, f.IsRebuilt) →
        read? ⟨some r, tools⟩ e.toData = .ok (some (e.restored r))) ∧
      ∀ tools tools' (d : Datum) (e : Entity), read? ⟨some r, tools⟩ d = .ok (some e) →
        (∀ f ∈ e.frames, f.IsRebuilt) →
        read? ⟨some r, tools'⟩ e.toData = .ok (some (e.restored r)) := by
  refine ⟨fun f => Frame.IsExact.isRebuilt, ?_, ?_⟩
  · intro tools e hattached hrebuilt
    exact read?_eq_ok.2 (decode?_toData rfl e hattached hrebuilt)
  · intro tools tools' d e hread hrebuilt
    have hattached : ∀ a ∈ e.axes, r.isAttached a = true :=
      isAttached_of_decode? rfl (read?_eq_ok.1 hread)
    exact read?_eq_ok.2 (decode?_toData rfl e hattached hrebuilt)

/-- A work object on the turntable in its shortest form. -/
def tableObjectData : Datum :=
  .record [("type", "work_object"), ("name", "part"), ("external_axis", "table")]

/-- The work object that it is read as. -/
def tableObject : WorkObject :=
  ⟨⟨"part", isIdentifier_part⟩, .world, .world, some (AttachedAxis.toAxis ⟨turntable, Joint.first⟩),
    .bool false⟩

/-- The short record is read for the arm with the turntable. -/
theorem read?_tableObjectData :
    read? ⟨some tableGenerator.robot, []⟩ tableObjectData =
      .ok (some (.workObject tableObject)) := by
  have hworld : Frame.ofData (.record []) = .ok .world := Frame.isExact_world.isRebuilt
  have hrecord : checkRecord tableObjectData none = .ok (.text Tag.workObject.word) := rfl
  refine read?_eq_ok.2 (decode?_of_checkRecord hrecord fun position _ => ?_)
  have huser : frameField tableObjectData "user_frame" = .ok .world := hworld
  have hobject : frameField tableObjectData "object_frame" = .ok .world := hworld
  have haxis : namedAxis ⟨some tableGenerator.robot, []⟩ tableObjectData =
      .ok (some (AttachedAxis.toAxis ⟨turntable, Joint.first⟩)) := by
    have hfound : tableGenerator.robot.axisNamed "table" = some ⟨turntable, Joint.first⟩ :=
      List.find?_cons_of_pos (by decide +kernel)
    have hname : tableObjectData.optional? "external_axis" = some (.text "table") := rfl
    simp only [namedAxis, hname, hfound]
  rw [fieldsOf, workObjectFields, huser, hobject, haxis]
  rfl

theorem read?_toData_table :
    (Frame.world : Frame Float).IsRebuilt ∧
      read? ⟨some tableGenerator.robot, []⟩ (Entity.action (.movement pinMovement)).toData =
        .ok (some (.action (.movement (pinMovement.restored tableGenerator.robot)))) ∧
      read? ⟨some tableGenerator.robot, []⟩ tableObjectData =
        .ok (some (.workObject tableObject)) ∧
      read? ⟨some tableGenerator.robot, []⟩ tableObject.toData =
        .ok (some (.workObject (tableObject.reattached tableGenerator.robot))) := by
  obtain ⟨hexact, hvalue, hdata⟩ := read?_toData tableGenerator.robot
  refine ⟨hexact .world Frame.isExact_world, ?_, read?_tableObjectData, ?_⟩
  · refine hvalue [] (.action (.movement pinMovement)) ?_ ?_
    · intro a ha
      have haxis : a = turntable := List.mem_singleton.1 ha
      rw [haxis]
      decide +kernel
    · intro f hf
      have hall : ∀ f ∈ pinMovement.frames, f.IsRebuilt := by decide +kernel
      exact hall f hf
  · refine hdata [] [] tableObjectData (.workObject tableObject) read?_tableObjectData ?_
    intro f hf
    have hall : ∀ f ∈ (Entity.workObject tableObject).frames, f.IsRebuilt := by decide +kernel
    exact hall f hf

end Decoder

end SixAxis
