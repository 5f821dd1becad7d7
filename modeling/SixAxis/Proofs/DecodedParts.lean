import SixAxis.Program.Decode
import SixAxis.Proofs.CheckedSteps

/-!
# What a record was read as

Reading a record gives a value of the kind that its tag names, made of what its fields give.  Each
step of reading is inverted once, and nothing is said here about where it fails.

* `Decoder.MovementParts` — what the parts of a movement were read from;
* `Decoder.MadeOf` — what a value was made of;
* `Decoder.of_decode?` — **what a record is read as**.
-/

namespace SixAxis

theorem Datum.get?_of_required {d : Datum} {name : String} {v : Datum}
    (hv : d.required name = .ok v) : d.get? name = some v := by
  rw [required] at hv
  cases hget : d.get? name with
  | none =>
    rw [hget] at hv
    cases hv
  | some w =>
    rw [hget] at hv
    exact congrArg some (Except.ok.inj hv)

namespace Decoder

variable {c : Decoder} {d : Datum}

theorem read?_eq_ok {e : Option Entity} : c.read? d = .ok e ↔ c.decode? d = .ok e := by
  rw [read?]
  cases c.decode? d with
  | error f =>
    constructor
    · intro h
      cases h
    · intro h
      cases h
  | ok e' => exact Iff.rfl

/-- A record that passes the checks of any kind has the type that they give. -/
theorem field_of_checkRecord {type : Datum} (h : checkRecord d none = .ok type) :
    d.field "type" .null = type := by
  cases d with
  | record fields =>
    unfold checkRecord at h
    simp only at h
    split at h
    · cases h
    · obtain ⟨version, -, h⟩ := bind_eq_ok.1 h
      split at h
      · cases h
      · cases h
        rfl
  | _ => cases h

/-- What the parts of a movement were read from. -/
structure MovementParts (c : Decoder) (d : Datum) (m : Movement) : Prop where
  target : ∃ inner, d.get? "target" = some inner ∧ targetPart inner = .ok m.target
  speed : speedPart (d.field "speed_data" (.int 5)) = .ok m.speed
  kind : moveKind (d.field "movement_type" (.int 0)) = .ok m.kind
  zone : zonePart (d.field "zone_data" (.int 0)) = .ok m.zone
  tool : c.toolPart (d.field "tool" .null) = .ok m.tool
  workObject : c.workObjectPart (d.field "work_object" (.record [])) = .ok m.workObject
  output : outputPart (d.field "digital_output" .null) = .ok m.output

theorem movementParts_of_movementFields {m : Movement} (h : c.movementFields d = .ok m) :
    c.MovementParts d m := by
  obtain ⟨inner, hinner, h⟩ := bind_eq_ok.1 h
  obtain ⟨target, htarget, h⟩ := bind_eq_ok.1 h
  obtain ⟨speed, hspeed, h⟩ := bind_eq_ok.1 h
  obtain ⟨kind, hkind, h⟩ := bind_eq_ok.1 h
  obtain ⟨zone, hzone, h⟩ := bind_eq_ok.1 h
  obtain ⟨tool, htool, h⟩ := bind_eq_ok.1 h
  obtain ⟨object, hobject, h⟩ := bind_eq_ok.1 h
  obtain ⟨output, houtput, h⟩ := bind_eq_ok.1 h
  cases h
  exact ⟨⟨inner, Datum.get?_of_required hinner, htarget⟩, hspeed, hkind, hzone, htool, hobject,
    houtput⟩

/-- What a value was made of, for those kinds of values whose parts matter below. -/
def MadeOf (c : Decoder) (d : Datum) : Entity → Prop
  | .workObject w => c.workObjectFields d = .ok w
  | .action (.comment remark) => d.get? "text" = some remark.text
  | .action (.movement m) => c.MovementParts d m
  | _ => True

/-- The fields of a record of a kind give a value of the kind. -/
theorem of_fieldsOf {position : Checked Entity} {tag : Tag} {e : Entity}
    (h : c.fieldsOf d position tag = .ok e) : e.tag = tag ∧ c.MadeOf d e := by
  cases tag with
  | workObject =>
    obtain ⟨w, hw, h⟩ := bind_eq_ok.1 h
    cases h
    exact ⟨rfl, hw⟩
  | movement =>
    obtain ⟨m, hm, h⟩ := bind_eq_ok.1 h
    cases h
    exact ⟨rfl, movementParts_of_movementFields hm⟩
  | comment =>
    obtain ⟨text, htext, h⟩ := bind_eq_ok.1 h
    obtain ⟨place, -, h⟩ := bind_eq_ok.1 h
    obtain ⟨remark, hremark, h⟩ := bind_eq_ok.1 h
    cases h
    rw [Comment.make] at hremark
    split at hremark
    · cases hremark
      exact ⟨rfl, Datum.get?_of_required htext⟩
    · cases hremark
  | freeConfiguration =>
    cases h
    exact ⟨rfl, trivial⟩
  | speed | zone | tool | target | output =>
    obtain ⟨x, -, h⟩ := bind_eq_ok.1 h
    cases h
    exact ⟨rfl, trivial⟩
  | robotJoints | externalJoints | timer | wait =>
    obtain ⟨x, -, h⟩ := bind_eq_ok.1 h
    obtain ⟨y, -, h⟩ := bind_eq_ok.1 h
    cases h
    exact ⟨rfl, trivial⟩
  | code =>
    obtain ⟨text, -, h⟩ := bind_eq_ok.1 h
    obtain ⟨place, -, h⟩ := bind_eq_ok.1 h
    obtain ⟨line, -, h⟩ := bind_eq_ok.1 h
    cases h
    exact ⟨rfl, trivial⟩
  | jointDeclaration =>
    obtain ⟨name, -, h⟩ := bind_eq_ok.1 h
    obtain ⟨v, -, h⟩ := bind_eq_ok.1 h
    obtain ⟨name, -, h⟩ := bind_eq_ok.1 h
    cases v with
    | joints v =>
      cases h
      exact ⟨rfl, trivial⟩
    | _ => cases h

/-- **What a record is read as**: nothing for a comparison, or else a value of its own kind that is
made of its parts. -/
theorem of_decode? {v : Option Entity} (h : c.decode? d = .ok v) :
    (v = none ∧ request (d.field "type" .null) = .comparison) ∨
      ∃ e, v = some e ∧ request (d.field "type" .null) = .kind e.tag ∧ c.MadeOf d e := by
  unfold decode? at h
  obtain ⟨type, htype, h⟩ := bind_eq_ok.1 h
  rw [field_of_checkRecord htype]
  cases hrequest : request type with
  | kind tag =>
    rw [hrequest] at h
    obtain ⟨e, he, h⟩ := bind_eq_ok.1 h
    cases h
    obtain ⟨rfl, hmade⟩ := of_fieldsOf he
    exact .inr ⟨e, rfl, rfl, hmade⟩
  | comparison =>
    rw [hrequest] at h
    cases h
    exact .inl ⟨rfl, rfl⟩
  | part tag =>
    rw [hrequest] at h
    cases h
  | operation =>
    rw [hrequest] at h
    cases h
  | unknown =>
    rw [hrequest] at h
    cases h

theorem madeOf_of_decode? {e : Entity} (h : c.decode? d = .ok (some e)) : c.MadeOf d e := by
  rcases of_decode? h with ⟨hnone, -⟩ | ⟨e', hsome, -, hmade⟩
  · cases hnone
  · cases hsome
    exact hmade

end Decoder

end SixAxis
