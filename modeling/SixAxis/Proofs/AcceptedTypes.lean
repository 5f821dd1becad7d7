import SixAxis.Proofs.DecodedParts
import SixAxis.Proofs.RestoredPrograms

/-!
# The kinds of records that are accepted

A record says of which kind and of which version it is.  The kind selects what reads the record, so
what matters is which words can select anything at all: those that are written for a kind, the
short words for three of the parts, and the names of operations that every value has.  The latter
two never read a record, but the comparisons among them give no value instead of a fault.

The records inside of a record have no choice.  Their place demands a kind, and a record that says
otherwise is a fault, whichever of the forms of a part the place allows.

* `Decoder.Supports`, `Decoder.Fits` — records whose version and kind allow that they are read;
* `Decoder.checkRecord_none_iff`, `Decoder.fits_of_checkRecord` — **the checks before any field**;
* `Decoder.Accepted` — a record as what it was read, with the records inside of it;
* `Decoder.accepted_of_decode?` — **what is read is accepted**;
* `Decoder.judges` — **which records are accepted, and what becomes of all others**.
-/

namespace SixAxis

theorem Entity.get?_type_toData (e : Entity) : e.toData.get? "type" = some (.text e.tag.word) := by
  cases e with
  | joints v =>
    obtain ⟨kind, j⟩ := v
    cases kind with
    | robot => rfl
    | external => rfl
  | action a => cases a <;> rfl
  | _ => rfl

theorem Entity.exists_movement {e : Entity} (h : e.tag = .movement) :
    ∃ m, e = .action (.movement m) := by
  cases e with
  | joints v =>
    obtain ⟨kind, j⟩ := v
    cases kind <;> cases h
  | action a =>
    cases a with
    | movement m => exact ⟨m, rfl⟩
    | _ => cases h
  | _ => cases h

namespace Decoder

/-! ### The checks before any field -/

/-- A record of a version that is not newer than the schema. -/
structure Supports (d : Datum) : Prop where
  isRecord : ∃ fields, d = .record fields
  version : ∀ v, d.get? "version" = some v →
    ∃ n, v = .number n ∧ ¬ (.whole schemaVersion : Number) < n

/-- A record that can be read as one of a kind: if it says of which kind it is, then of this one. -/
structure Fits (tag : Tag) (d : Datum) : Prop extends Supports d where
  kind : ∀ type, d.get? "type" = some type → type = .text tag.word

variable {c : Decoder} {d : Datum}

/-- The last of the checks, that of the version. -/
def checkVersion (d type : Datum) : Checked Datum := do
  let version ← (d.field "version" (.int schemaVersion)).toNumber
  if (.whole schemaVersion : Number) < version then
    .error (ConfigurationFault.newerVersion (.number version) type schemaVersion)
  return type

theorem checkVersion_eq_ok_iff {type found : Datum} :
    checkVersion d type = .ok found ↔
      (∀ v, d.get? "version" = some v →
        ∃ n, v = .number n ∧ ¬ (.whole schemaVersion : Number) < n) ∧ type = found := by
  have hchecked (n : Number) :
      ((if (.whole schemaVersion : Number) < n then do
          .error (ConfigurationFault.newerVersion (.number n) type schemaVersion)
          pure type
        else pure type : Checked Datum) = .ok found) ↔
        ¬ (.whole schemaVersion : Number) < n ∧ type = found := by
    by_cases hnewer : (.whole schemaVersion : Number) < n
    · rw [if_pos hnewer]
      constructor
      · intro h
        cases h
      · exact fun h => absurd hnewer h.1
    · rw [if_neg hnewer]
      exact ⟨fun h => ⟨hnewer, Except.ok.inj h⟩, fun h => congrArg Except.ok h.2⟩
  rw [checkVersion, bind_eq_ok, Datum.field]
  cases hversion : d.get? "version" with
  | none =>
    constructor
    · rintro ⟨n, -, hn⟩
      refine ⟨fun v hv => ?_, ((hchecked n).1 hn).2⟩
      cases hv
    · rintro ⟨-, htype⟩
      exact ⟨_, rfl, (hchecked _).2 ⟨by decide, htype⟩⟩
  | some v =>
    constructor
    · rintro ⟨n, hn, hrest⟩
      obtain ⟨hold, htype⟩ := (hchecked n).1 hrest
      refine ⟨fun w hw => ?_, htype⟩
      cases hw
      cases v with
      | number m =>
        cases hn
        exact ⟨n, rfl, hold⟩
      | _ => cases hn
    · rintro ⟨hold, htype⟩
      obtain ⟨n, rfl, hn⟩ := hold v rfl
      exact ⟨n, rfl, (hchecked n).2 ⟨hn, htype⟩⟩

/-- A record that says of which kind it is passes the checks if its version does. -/
theorem checkRecord_none_eq {type : Datum} {fields : Datum.Fields}
    (htype : (Datum.record fields).field "type" .null = type) (hnull : type ≠ .null) :
    checkRecord (.record fields) none = checkVersion (.record fields) type := by
  unfold checkRecord
  simp only [htype]
  cases type with
  | null => exact absurd rfl hnull
  | _ => rfl

/-- A record of no demanded kind is checked for saying of which kind it is. -/
theorem checkRecord_none_iff {type : Datum} :
    checkRecord d none = .ok type ↔ Supports d ∧ d.get? "type" = some type ∧ type ≠ .null := by
  cases d with
  | record fields =>
    constructor
    · intro h
      have hfield := field_of_checkRecord h
      have hnull : type ≠ .null := by
        rintro rfl
        unfold checkRecord at h
        simp only [hfield] at h
        cases h
      rw [checkRecord_none_eq hfield hnull, checkVersion_eq_ok_iff] at h
      refine ⟨⟨⟨fields, rfl⟩, h.1⟩, ?_, hnull⟩
      cases hget : (Datum.record fields).get? "type" with
      | none =>
        rw [Datum.field, hget] at hfield
        exact absurd hfield.symm hnull
      | some given => rw [← hfield, Datum.field_of_get? hget]
    · rintro ⟨⟨-, hversion⟩, htype, hnull⟩
      rw [checkRecord_none_eq (Datum.field_of_get? htype _) hnull, checkVersion_eq_ok_iff]
      exact ⟨hversion, rfl⟩
  | _ =>
    constructor
    · intro h
      cases h
    · rintro ⟨⟨⟨fields, hfields⟩, -⟩, -⟩
      cases hfields

theorem fits_of_checkRecord {tag : Tag} {type : Datum} (h : checkRecord d (some tag) = .ok type) :
    Fits tag d := by
  cases d with
  | record fields =>
    unfold checkRecord at h
    simp only at h
    split at h
    · cases h
    · rw [if_neg Bool.false_ne_true] at h
      split at h
      · rename_i hsame
        obtain ⟨hversion, -⟩ := checkVersion_eq_ok_iff.1 h
        refine ⟨⟨⟨fields, rfl⟩, hversion⟩, fun given hgiven => ?_⟩
        rw [Datum.field_of_get? hgiven] at hsame
        exact Datum.eq_text_of_same hsame
      · cases h
  | _ => cases h

/-! ### The faults of these checks -/

/-- A fault that reading reports as one of the data: it already is one, or it is a value of a kind
that an operation does not take. -/
def IsOfData (f : Fault) : Prop := f = .misuse .illTyped ∨ ∃ g, f = .configuration g

theorem IsOfData.asInvalid {f : Fault} (h : IsOfData f) :
    ∃ g, asInvalid d f = .configuration g := by
  rcases h with rfl | ⟨g, rfl⟩
  · exact ⟨_, rfl⟩
  · exact ⟨g, rfl⟩

theorem isOfData_of_checkVersion {type : Datum} {f : Fault} (h : checkVersion d type = .error f) :
    IsOfData f := by
  rw [checkVersion] at h
  rcases bind_eq_error.1 h with h | ⟨n, -, h⟩
  · cases hversion : d.field "version" (.int schemaVersion) with
    | number n =>
      rw [hversion] at h
      cases h
    | _ =>
      rw [hversion] at h
      cases h
      exact .inl rfl
  · split at h
    · cases h
      exact .inr ⟨_, rfl⟩
    · cases h

theorem isOfData_of_checkRecord {f : Fault} (h : checkRecord d none = .error f) : IsOfData f := by
  cases d with
  | record fields =>
    by_cases hnull : (Datum.record fields).field "type" .null = .null
    · unfold checkRecord at h
      simp only [hnull] at h
      cases h
      exact .inr ⟨_, rfl⟩
    · rw [checkRecord_none_eq rfl hnull] at h
      exact isOfData_of_checkVersion h
  | _ =>
    cases h
    exact .inr ⟨_, rfl⟩

/-! ### What a tag selects -/

theorem eq_of_request_kind {type : Datum} {tag : Tag} (h : request type = .kind tag) :
    type = .text tag.word := by
  cases type with
  | text s =>
    rw [request] at h
    split at h
    · rename_i hfound
      cases h
      rw [Tag.ofWord?] at hfound
      have hword := List.find?_some hfound
      rw [← eq_of_beq hword]
    · cases h
    · split at h
      · cases h
      · split at h <;> cases h
  | _ => cases h

theorem request_eq_comparison_iff {type : Datum} :
    request type = .comparison ↔ ∃ word ∈ comparisons, type = .text word := by
  constructor
  · intro h
    cases type with
    | text s =>
      rw [request] at h
      split at h
      · cases h
      · cases h
      · split at h
        · cases h
        · split at h
          · exact ⟨s, List.contains_iff_mem.1 ‹_›, rfl⟩
          · cases h
    | _ => cases h
  · rintro ⟨word, hword, rfl⟩
    simp only [comparisons, List.mem_cons, List.not_mem_nil, or_false] at hword
    rcases hword with rfl | rfl | rfl | rfl | rfl | rfl | rfl <;> rfl

/-! ### Records inside of records -/

/-- The places in a record of a kind where other records are read, and the kinds that each of them
takes. -/
def places : Tag → List (String × List Tag)
  | .movement => [
    ("target", [.target]), ("speed_data", [.speed]), ("zone_data", [.zone]), ("tool", [.tool]),
    ("work_object", [.workObject]), ("digital_output", [.output])]
  | .jointDeclaration => [("position", [.robotJoints, .externalJoints])]
  | _ => []

/-- A record as what it was read: it says that it is of the kind of the value, and so does the
serialized form of the value; and each record at a place inside of it is of a kind that the place
takes. -/
structure Accepted (d : Datum) (e : Entity) : Prop extends Fits e.tag d where
  tagged : d.get? "type" = some (.text e.tag.word)
  written : e.toData.get? "type" = some (.text e.tag.word)
  parts : ∀ place ∈ places e.tag, ∀ fields, d.get? place.1 = some (.record fields) →
    ∃ tag ∈ place.2, Fits tag (.record fields)

/-- What is read of a record of a demanded kind is read after the checks. -/
theorem fits_of_bind {α : Type} {tag : Tag} {rest : Datum → Checked α} {a : α}
    (h : checkRecord d (some tag) >>= rest = .ok a) : Fits tag d := by
  obtain ⟨type, htype, -⟩ := bind_eq_ok.1 h
  exact fits_of_checkRecord htype

theorem MovementParts.fits {m : Movement} (h : c.MovementParts d m) {place : String × List Tag}
    (hplace : place ∈ places .movement) {fields : Datum.Fields}
    (hget : d.get? place.1 = some (.record fields)) :
    ∃ tag ∈ place.2, Fits tag (.record fields) := by
  simp only [places, List.mem_cons, List.not_mem_nil, or_false] at hplace
  rcases hplace with rfl | rfl | rfl | rfl | rfl | rfl
  · obtain ⟨inner, hinner, htarget⟩ := h.target
    cases hinner.symm.trans hget
    exact ⟨.target, List.mem_singleton_self _, fits_of_bind htarget⟩
  · have hspeed := h.speed
    rw [Datum.field_of_get? hget] at hspeed
    exact ⟨.speed, List.mem_singleton_self _, fits_of_bind hspeed⟩
  · have hzone := h.zone
    rw [Datum.field_of_get? hget] at hzone
    exact ⟨.zone, List.mem_singleton_self _, fits_of_bind hzone⟩
  · have htool := h.tool
    rw [Datum.field_of_get? hget] at htool
    exact ⟨.tool, List.mem_singleton_self _, fits_of_bind htool⟩
  · have hobject := h.workObject
    rw [Datum.field_of_get? hget] at hobject
    exact ⟨.workObject, List.mem_singleton_self _, fits_of_bind hobject⟩
  · have houtput := h.output
    rw [Datum.field_of_get? hget] at houtput
    exact ⟨.output, List.mem_singleton_self _, fits_of_bind houtput⟩

/-- A record that is read says that it is of the kind of the value. -/
theorem fits_of_decode? {e : Entity} (h : c.decode? d = .ok (some e)) :
    Fits e.tag d ∧ d.get? "type" = some (.text e.tag.word) := by
  have hrequest : request (d.field "type" .null) = .kind e.tag := by
    rcases of_decode? h with ⟨hnone, -⟩ | ⟨e', hsome, hrequest, -⟩
    · cases hnone
    · cases hsome
      exact hrequest
  unfold decode? at h
  obtain ⟨type, htype, -⟩ := bind_eq_ok.1 h
  obtain ⟨hsupports, hget, -⟩ := checkRecord_none_iff.1 htype
  rw [Datum.field_of_get? hget] at hrequest
  obtain rfl := eq_of_request_kind hrequest
  refine ⟨⟨hsupports, fun given hgiven => ?_⟩, hget⟩
  exact Option.some.inj (hgiven.symm.trans hget)

/-- The position of a joint declaration was read as a joint vector. -/
theorem position_of_decode? {e : Entity} (h : c.decode? d = .ok (some e))
    (htag : e.tag = .jointDeclaration) :
    ∃ inner v, d.get? "position" = some inner ∧ c.decode? inner = .ok (some (.joints v)) := by
  have hget := (fits_of_decode? h).2
  unfold decode? at h
  obtain ⟨type, htype, h⟩ := bind_eq_ok.1 h
  have htyped : type = .text e.tag.word :=
    Option.some.inj ((checkRecord_none_iff.1 htype).2.1.symm.trans hget)
  rw [htyped, htag, request_word] at h
  obtain ⟨e', he', -⟩ := bind_eq_ok.1 h
  obtain ⟨name, -, h⟩ := bind_eq_ok.1 he'
  obtain ⟨v, hv, h⟩ := bind_eq_ok.1 h
  obtain ⟨name', -, h⟩ := bind_eq_ok.1 h
  cases v with
  | joints v =>
    split at hv
    · cases hv
    · rename_i inner hinner
      obtain ⟨w, hw, hv⟩ := bind_eq_ok.1 hv
      cases w with
      | none =>
        obtain ⟨given, -, hv⟩ := bind_eq_ok.1 hv
        obtain ⟨name'', -, hv⟩ := bind_eq_ok.1 hv
        cases hv
      | some w =>
        cases hv
        exact ⟨inner, v, hinner, hw⟩
  | _ => cases h

/-- **What is read is accepted.** -/
theorem accepted_of_decode? {e : Entity} (h : c.decode? d = .ok (some e)) : Accepted d e := by
  obtain ⟨hfits, htagged⟩ := fits_of_decode? h
  refine ⟨hfits, htagged, e.get?_type_toData, fun place hplace fields hget => ?_⟩
  cases htag : e.tag with
  | movement =>
    rw [htag] at hplace
    obtain ⟨m, rfl⟩ := Entity.exists_movement htag
    exact MovementParts.fits (madeOf_of_decode? h) hplace hget
  | jointDeclaration =>
    rw [htag] at hplace
    obtain ⟨inner, v, hinner, hv⟩ := position_of_decode? h htag
    cases List.mem_singleton.1 hplace
    cases hinner.symm.trans hget
    refine ⟨Entity.tag (.joints v), ?_, (fits_of_decode? hv).1⟩
    obtain ⟨kind, j⟩ := v
    cases kind with
    | robot => exact List.mem_cons_self
    | external => exact List.mem_cons_of_mem _ (List.mem_singleton_self _)
  | _ =>
    rw [htag] at hplace
    cases hplace

/-! ### Which records are accepted -/

/-- What becomes of a record.

A record that gives a value is accepted as it.  One whose tag is none of the words for a kind is a
fault of the data, unless the tag asks for a comparison, in which case it gives nothing.  Those are
all the records that give nothing. -/
structure Judges (c : Decoder) (d : Datum) : Prop where
  accepted : ∀ e, c.read? d = .ok (some e) → Accepted d e
  refused : (∀ tag : Tag, d.get? "type" ≠ some (.text tag.word)) →
    (∃ g, c.read? d = .error (.configuration g)) ∨ c.read? d = .ok none
  nothing_iff : c.read? d = .ok none ↔
    Supports d ∧ ∃ word ∈ comparisons, d.get? "type" = some (.text word)

theorem decode?_eq_none_iff :
    c.decode? d = .ok none ↔
      Supports d ∧ ∃ word ∈ comparisons, d.get? "type" = some (.text word) := by
  constructor
  · intro h
    have hrequest : request (d.field "type" .null) = .comparison := by
      rcases of_decode? h with ⟨-, hrequest⟩ | ⟨e, hsome, -⟩
      · exact hrequest
      · cases hsome
    unfold decode? at h
    obtain ⟨type, htype, -⟩ := bind_eq_ok.1 h
    obtain ⟨hsupports, hget, -⟩ := checkRecord_none_iff.1 htype
    rw [Datum.field_of_get? hget] at hrequest
    obtain ⟨word, hword, rfl⟩ := request_eq_comparison_iff.1 hrequest
    exact ⟨hsupports, word, hword, hget⟩
  · rintro ⟨hsupports, word, hword, hget⟩
    have hchecked : checkRecord d none = .ok (.text word) :=
      checkRecord_none_iff.2 ⟨hsupports, hget, fun h => nomatch h⟩
    unfold decode?
    simp only [hchecked, bind, Except.bind, request_eq_comparison_iff.2 ⟨word, hword, rfl⟩]
    rfl

theorem refused_of_untagged (h : ∀ tag : Tag, d.get? "type" ≠ some (.text tag.word)) :
    (∃ f, c.decode? d = .error f ∧ IsOfData f) ∨ c.decode? d = .ok none := by
  cases hchecked : checkRecord d none with
  | error f =>
    refine .inl ⟨f, ?_, isOfData_of_checkRecord hchecked⟩
    unfold decode?
    rw [hchecked]
    rfl
  | ok type =>
    unfold decode?
    cases hrequest : request type with
    | kind tag =>
      cases eq_of_request_kind hrequest
      exact absurd (checkRecord_none_iff.1 hchecked).2.1 (h tag)
    | part tag =>
      simp only [hchecked, bind, Except.bind, hrequest]
      exact .inl ⟨_, rfl, .inr ⟨_, rfl⟩⟩
    | operation =>
      simp only [hchecked, bind, Except.bind, hrequest]
      exact .inl ⟨_, rfl, .inl rfl⟩
    | comparison =>
      simp only [hchecked, bind, Except.bind, hrequest]
      exact .inr rfl
    | unknown =>
      simp only [hchecked, bind, Except.bind, hrequest]
      exact .inl ⟨_, rfl, .inr ⟨_, rfl⟩⟩

/-- **Which records are accepted, and what becomes of all others.** -/
theorem judges (c : Decoder) (d : Datum) : c.Judges d where
  accepted e he := accepted_of_decode? (read?_eq_ok.1 he)
  refused h := by
    rcases c.refused_of_untagged h with ⟨f, hf, hdata⟩ | hnone
    · obtain ⟨g, hg⟩ := hdata.asInvalid (d := d)
      refine .inl ⟨g, ?_⟩
      rw [read?, hf]
      exact congrArg Except.error hg
    · exact .inr (read?_eq_ok.2 hnone)
  nothing_iff := read?_eq_ok.trans decode?_eq_none_iff

end Decoder

end SixAxis
