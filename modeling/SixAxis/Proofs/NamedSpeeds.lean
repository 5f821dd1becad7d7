import SixAxis.Proofs.AcceptedTypes
import SixAxis.Proofs.WholeNumerals
import SixAxis.Proofs.ZoneNames

/-!
# Speeds and zones by name

A movement can name its speed and its zone in place of their data.  A zone is looked up by its name
as it stands.  Of the name of a speed only the number counts: the letters in front of it are
dropped, however many there are, and what is left is read as a whole number in any way one is
written.  So every known speed is found under its name, but not only there.

* `SpeedData.IsTakenFor` — the texts that are taken for a known speed,
  `SpeedData.isTakenFor_iff` — how they are read;
* `Datum.IsWith` — a record with another value in one of its fields;
* `Decoder.read?_of_speed`, `Decoder.read?_of_zone` — a movement with another speed or zone is read
  as the same movement with it;
* `Decoder.read?_namesMotion` — **which names of speeds and zones are accepted**, and what for.
-/

namespace SixAxis

/-! ### Names of speeds -/

namespace SpeedData

/-- The name of a known speed. -/
def knownName (k : Nat) : String := "v" ++ toString k

/-- Whether a text is the name of a known speed. -/
def IsKnownName (s : String) : Prop := ∃ k ∈ known, s = knownName k

/-- The number in the name of a speed. -/
def numeralOf (s : String) : String := String.ofList (s.toList.dropWhile (· = 'v'))

/-- Whether a text is taken for a known speed: the letter `v` any number of times, and then its
number as any whole number is written. -/
def IsTakenFor (s : String) (k : Nat) : Prop :=
  k ∈ known ∧ ∃ vs numeral, s.toList = vs ++ numeral.toList ∧ (∀ c ∈ vs, c = 'v') ∧
    Decimal.IsWhole numeral k

/-- What is left of a name when the letters in front are dropped is read as a whole number. -/
theorem isTakenFor_iff {s : String} {k : Nat} :
    IsTakenFor s k ↔ k ∈ known ∧ Decimal.whole (numeralOf s) = .ok (k : Int) := by
  rw [IsTakenFor, Decimal.whole_eq_ok_iff]
  refine and_congr_right fun _ => ⟨?_, fun h => ?_⟩
  · rintro ⟨vs, numeral, hs, hvs, hwhole⟩
    have hfirst : ∃ c rest, numeral.toList = c :: rest ∧ c ≠ 'v' :=
      hwhole.exists_cons (by decide) (by decide) (by decide) (by decide)
    obtain ⟨c, rest, hnumeral, hc⟩ := hfirst
    have hdropped : s.toList.dropWhile (· = 'v') = numeral.toList := by
      rw [hs, List.dropWhile_append_of_pos fun c hc => decide_eq_true (hvs c hc), hnumeral,
        List.dropWhile_cons_of_neg (by simpa using hc)]
    rwa [numeralOf, hdropped, String.ofList_toList]
  · have hletters : ∀ c ∈ s.toList.takeWhile (· = 'v'), c = 'v' := fun c hc =>
      of_decide_eq_true (List.mem_takeWhile_imp (p := (· = 'v')) hc)
    refine ⟨s.toList.takeWhile (· = 'v'), numeralOf s, ?_, hletters, h⟩
    rw [numeralOf, String.toList_ofList, List.takeWhile_append_dropWhile]

/-- A text is taken for one speed only. -/
theorem IsTakenFor.unique {s : String} {j k : Nat} (hj : IsTakenFor s j) (hk : IsTakenFor s k) :
    j = k := by
  have hsame := (isTakenFor_iff.1 hj).2.symm.trans (isTakenFor_iff.1 hk).2
  exact_mod_cast Except.ok.inj hsame

/-- One letter more or less in front makes no difference. -/
theorem isTakenFor_letter {s : String} {k : Nat} : IsTakenFor ("v" ++ s) k ↔ IsTakenFor s k := by
  have hnumeral : numeralOf ("v" ++ s) = numeralOf s := by
    rw [numeralOf, String.toList_append]
    rfl
  rw [isTakenFor_iff, isTakenFor_iff, hnumeral]

/-- The name of a known speed is taken for it. -/
theorem isTakenFor_knownName {k : Nat} (hk : k ∈ known) : IsTakenFor (knownName k) k := by
  have hall : ∀ k ∈ known,
      (Decimal.whole (numeralOf (knownName k))).toOption = some (k : Int) := by
    decide +kernel
  have hread := hall k hk
  refine isTakenFor_iff.2 ⟨hk, ?_⟩
  cases hnumeral : Decimal.whole (numeralOf (knownName k)) with
  | error why =>
    rw [hnumeral] at hread
    cases hread
  | ok n =>
    rw [hnumeral] at hread
    rw [Option.some.inj hread]

/-- The name of a known speed is taken for the speed of this name. -/
theorem IsTakenFor.knownName_eq_iff {s : String} {k : Nat} (h : IsTakenFor s k) :
    knownName k = s ↔ IsKnownName s := by
  constructor
  · rintro rfl
    exact ⟨k, h.1, rfl⟩
  · rintro ⟨j, hj, rfl⟩
    rw [(isTakenFor_knownName hj).unique h]

/-- Whether a value is a known speed: it has its name, and the controller knows it by that. -/
structure IsKnown (sp : SpeedData) (k : Nat) : Prop where
  name : sp.name.text = knownName k
  builtIn : sp.isBuiltIn = true
  predefined : sp.predefined.isTruthy = true

theorem exists_ofKnown {k : Nat} (hk : k ∈ known) :
    ∃ sp, ofKnown (.int k) = .ok sp ∧ sp.IsKnown k := by
  have hall : ∀ k ∈ known, (ofKnown (.int k)).toOption.any
      (fun sp => sp.name.text == knownName k && sp.isBuiltIn && sp.predefined.isTruthy) = true := by
    decide +kernel
  obtain ⟨sp, hsp, hknown⟩ := exists_ok_of_any (hall k hk)
  rw [Bool.and_eq_true, Bool.and_eq_true] at hknown
  obtain ⟨⟨hname, hbuilt⟩, hpredefined⟩ := hknown
  exact ⟨sp, hsp, eq_of_beq hname, hbuilt, hpredefined⟩

/-- A whole number is that of a known speed, or there is no speed for it. -/
theorem ofKnown_int (n : Int) : (∃ k ∈ known, n = (k : Int)) ∨
    ofKnown (.int n) = .error (ActionFault.notPredefinedSpeed (.int n) known) := by
  cases hknown : known.any fun k => (Numeral.whole n : Number).same (.whole k) with
  | true =>
    obtain ⟨k, hk, hsame⟩ := List.any_eq_true.1 hknown
    have horder : some (compare n (k : Int)) = some .eq := eq_of_beq hsame
    exact .inl ⟨k, hk, compare_eq_iff_eq.1 (Option.some.inj horder)⟩
  | false => exact .inr (if_neg (by rw [hknown]; exact Bool.false_ne_true))

end SpeedData

/-! ### Parts that are named -/

namespace Decoder

/-- Whether a fault of reading a record is one for the user, whatever the record is. -/
def IsReported (f : Fault) : Prop := ∀ d, (asInvalid d f).isExpected = true

/-- **A text is read as the known speed that it is taken for**, or it is a fault of the data. -/
theorem speedPart_text (s : String) :
    (∃ k sp, SpeedData.IsTakenFor s k ∧ sp.IsKnown k ∧ speedPart (.text s) = .ok sp) ∨
      (∀ k, ¬ SpeedData.IsTakenFor s k) ∧ ∃ f, speedPart (.text s) = .error f ∧ IsReported f := by
  cases hnumeral : Decimal.whole (SpeedData.numeralOf s) with
  | error why =>
    have hpart : speedPart (.text s) = .error (Misuse.notWhole (SpeedData.numeralOf s) why) := by
      rw [SpeedData.numeralOf] at hnumeral ⊢
      rw [speedPart, hnumeral]
    refine .inr ⟨fun k hk => ?_, _, hpart, fun d => ?_⟩
    · cases hnumeral.symm.trans (SpeedData.isTakenFor_iff.1 hk).2
    · cases why <;> rfl
  | ok n =>
    have hpart : speedPart (.text s) = SpeedData.ofKnown (.int n) := by
      rw [SpeedData.numeralOf] at hnumeral
      rw [speedPart, hnumeral]
    rcases SpeedData.ofKnown_int n with ⟨k, hk, rfl⟩ | hunknown
    · obtain ⟨sp, hsp, hknown⟩ := SpeedData.exists_ofKnown hk
      exact .inl ⟨k, sp, SpeedData.isTakenFor_iff.2 ⟨hk, hnumeral⟩, hknown, hpart.trans hsp⟩
    · refine .inr ⟨fun k hk => ?_, _, hpart.trans hunknown, fun d => rfl⟩
      obtain ⟨hmem, hread⟩ := SpeedData.isTakenFor_iff.1 hk
      obtain ⟨sp, hsp, -⟩ := SpeedData.exists_ofKnown hmem
      rw [Except.ok.inj (hnumeral.symm.trans hread)] at hunknown
      cases hunknown.symm.trans hsp

end Decoder

namespace ZoneData

/-- Whether a text is the name of a zone that the controller knows. -/
def IsName (s : String) : Prop := s = fineName ∨ isKnownName s = true

/-- Whether a value is a zone that the controller knows by a name. -/
structure IsNamed (z : ZoneData) (s : String) : Prop where
  name : z.name.text = s
  builtIn : z.isBuiltIn = true
  predefined : z.predefined = .bool true

end ZoneData

namespace Decoder

/-- **A text is read as the zone of this name**, or it is a fault of the data. -/
theorem zonePart_text (s : String) :
    (∃ z, ZoneData.IsName s ∧ z.IsNamed s ∧ zonePart (.text s) = .ok z) ∨
      ¬ ZoneData.IsName s ∧ ∃ f, zonePart (.text s) = .error f ∧ IsReported f := by
  have hpart : zonePart (.text s) = if s = ZoneData.fineName then ZoneData.fine
    else (ZoneData.ofKnown? s).getD (.error (ConfigurationFault.unknownZone s)) := rfl
  by_cases hfine : s = ZoneData.fineName
  · rw [if_pos hfine] at hpart
    obtain ⟨z, hz, hbuilt⟩ := ZoneData.isBuiltIn_fine
    have hparts := hz
    rw [ZoneData.fine_eq_ofSizes] at hparts
    obtain ⟨hname, -, -, hpredefined⟩ := ZoneData.parts_of_ofSizes hparts
    exact .inl ⟨z, .inl hfine, ⟨hname.trans hfine.symm, hbuilt, hpredefined⟩, hpart.trans hz⟩
  · rw [if_neg hfine] at hpart
    cases hknown : ZoneData.isKnownName s with
    | true =>
      obtain ⟨sizes, hsizes⟩ := ZoneData.ofKnown?_of_isKnownName hknown
      obtain ⟨z, hz, hbuilt⟩ := ZoneData.isBuiltIn_ofKnown? hsizes
      obtain ⟨hname, -, -, hpredefined⟩ := ZoneData.parts_of_ofSizes hz
      rw [hsizes, Option.getD_some] at hpart
      exact .inl ⟨z, .inr hknown, ⟨hname, hbuilt, hpredefined⟩, hpart.trans hz⟩
    | false =>
      rw [ZoneData.ofKnown?_of_not_isKnownName hknown, Option.getD_none] at hpart
      refine .inr ⟨?_, _, hpart, fun d => rfl⟩
      rintro (hname | hname)
      · exact hfine hname
      · cases hknown.symm.trans hname

end Decoder

/-! ### Records with another value in a field -/

/-- A record with a value in one of its fields, and with those of another record in all others. -/
structure Datum.IsWith (d : Datum) (name : String) (v d' : Datum) : Prop where
  isRecord : ∃ fields, d' = .record fields
  get?_eq : ∀ other, d'.get? other = if other = name then some v else d.get? other

namespace Datum

theorem same_text (d : Datum) (name : String) : d.same (.text name) = d.isText name := by
  cases d <;> simp [same, isText]

theorem eq_of_isText {d : Datum} {a b : String} (ha : d.isText a = true) (hb : d.isText b = true) :
    a = b := by
  cases d with
  | text s => exact (eq_of_beq ha).symm.trans (eq_of_beq hb)
  | _ => cases ha

/-- A field that is set in its place is found with its new value, and the others are as before. -/
theorem lookup_map_set (fields : Fields) (name other : String) (v : Datum)
    (h : fields.any (·.1.isText name) = true) :
    lookup (fields.map fun f => if f.1.isText name then (f.1, v) else f) other =
      if other = name then some v else lookup fields other := by
  have hkeys : (fun f : Datum × Datum => f.1.isText other) ∘
      (fun f : Datum × Datum => if f.1.isText name then (f.1, v) else f) =
        fun f => f.1.isText other := by
    funext f
    rw [Function.comp_apply]
    split <;> rfl
  rw [lookup, lookup, List.find?_map, hkeys]
  by_cases hother : other = name
  · subst hother
    obtain ⟨f, hf⟩ := Option.isSome_iff_exists.1 (List.find?_isSome.2 (List.any_eq_true.1 h))
    have hkey := List.find?_some hf
    rw [hf, if_pos rfl, Option.map_some, if_pos hkey, Option.map_some]
  · rw [if_neg hother]
    cases hf : fields.find? (fun f => f.1.isText other) with
    | none => rfl
    | some f =>
      have hkey := List.find?_some hf
      rw [Option.map_some, if_neg fun hname => hother (eq_of_isText hkey hname)]

/-- So it is if it is added behind the others. -/
theorem lookup_append_set (fields : Fields) (name other : String) (v : Datum)
    (h : fields.any (·.1.isText name) = false) :
    lookup (fields ++ [(.text name, v)]) other =
      if other = name then some v else lookup fields other := by
  rw [lookup, lookup, List.find?_append]
  by_cases hother : other = name
  · subst hother
    have hnone : fields.find? (·.1.isText other) = none :=
      List.find?_eq_none.2 (List.any_eq_false.1 h)
    rw [hnone, if_pos rfl, Option.none_or,
      List.find?_cons_of_pos (by rw [isText, beq_self_eq_true]), Option.map_some]
  · rw [if_neg hother, List.find?_cons_of_neg (by simpa [isText] using Ne.symm hother),
      List.find?_nil, Option.or_none]

/-- Setting a field of a record gives such a record. -/
theorem isWith_insert (fields : Fields) (name : String) (v : Datum) :
    (record fields).IsWith name v (.record (insert fields (.text name) v)) := by
  refine ⟨⟨_, rfl⟩, fun other => ?_⟩
  rw [get?, get?, insert]
  simp only [same_text]
  split
  · rename_i hany
    exact lookup_map_set fields name other v hany
  · rename_i hany
    exact lookup_append_set fields name other v (Bool.eq_false_iff.2 hany)

end Datum

namespace Datum.IsWith

variable {d d' v : Datum} {name other : String}

theorem get?_other (h : d.IsWith name v d') (hother : other ≠ name) :
    d'.get? other = d.get? other := by
  rw [h.get?_eq, if_neg hother]

theorem field_self (h : d.IsWith name v d') (absent : Datum) : d'.field name absent = v :=
  field_of_get? (by rw [h.get?_eq, if_pos rfl]) absent

theorem field_other (h : d.IsWith name v d') (hother : other ≠ name) (absent : Datum) :
    d'.field other absent = d.field other absent := by
  rw [field, field, h.get?_other hother]

end Datum.IsWith

namespace Decoder

variable {c : Decoder} {d d' v : Datum} {m : Movement}

/-- What is read from a record that says that it is a movement, and of which version. -/
theorem read?_of_checkRecord (h : checkRecord d none = .ok (.text Tag.movement.word)) :
    c.read? d = ((c.movementFields d).map fun m => some (.action (.movement m))).mapError
      (asInvalid d) := by
  have hdecoded : c.decode? d = (c.movementFields d).map fun m => some (.action (.movement m)) := by
    unfold decode?
    rw [h]
    simp only [bind, Except.bind, request_word, fieldsOf]
    cases c.movementFields d <;> rfl
  rw [read?, hdecoded]

/-- A record that is read as a movement says so, and still does if another field has another
value. -/
theorem checkRecord_of_read? {name : String} (h : c.read? d = .ok (some (.action (.movement m))))
    (hwith : d.IsWith name v d') (htype : "type" ≠ name) (hversion : "version" ≠ name) :
    checkRecord d' none = .ok (.text Tag.movement.word) := by
  obtain ⟨hfits, htyped⟩ := fits_of_decode? (read?_eq_ok.1 h)
  refine checkRecord_none_iff.2 ⟨⟨hwith.isRecord, ?_⟩, ?_, nofun⟩
  · rw [hwith.get?_other hversion]
    exact hfits.version
  · rw [hwith.get?_other htype]
    exact htyped

/-- With another speed, the fields give the same movement with it. -/
theorem movementFields_of_speed (h : c.MovementParts d m) (hwith : d.IsWith "speed_data" v d') :
    c.movementFields d' = (speedPart v).map fun sp => { m with speed := sp } := by
  obtain ⟨inner, hinner, htarget⟩ := h.target
  have hrequired : d'.required "target" = .ok inner :=
    Datum.required_of_get? ((hwith.get?_other (by decide)).trans hinner)
  simp (disch := decide) only [movementFields, hwith.field_self, hwith.field_other, h.kind, h.zone,
    h.tool, h.workObject, h.output, hrequired, htarget, bind, Except.bind]
  cases speedPart v <;> rfl

/-- With another zone, the fields give the same movement with it. -/
theorem movementFields_of_zone (h : c.MovementParts d m) (hwith : d.IsWith "zone_data" v d') :
    c.movementFields d' = (zonePart v).map fun z => { m with zone := z } := by
  obtain ⟨inner, hinner, htarget⟩ := h.target
  have hrequired : d'.required "target" = .ok inner :=
    Datum.required_of_get? ((hwith.get?_other (by decide)).trans hinner)
  simp (disch := decide) only [movementFields, hwith.field_self, hwith.field_other, h.kind, h.speed,
    h.tool, h.workObject, h.output, hrequired, htarget, bind, Except.bind]
  cases zonePart v <;> rfl

/-- A record with another value in a field is read as the movement that its fields give with it. -/
theorem read?_of_part {α : Type} {name : String} {part : Checked α} {put : α → Movement}
    (h : c.read? d = .ok (some (.action (.movement m)))) (hwith : d.IsWith name v d')
    (htype : "type" ≠ name) (hversion : "version" ≠ name)
    (hfields : c.movementFields d' = part.map put) :
    c.read? d' = (part.map fun a => some (.action (.movement (put a)))).mapError (asInvalid d') := by
  rw [read?_of_checkRecord (checkRecord_of_read? h hwith htype hversion), hfields]
  cases part <;> rfl

/-- A record with another speed is read as the same movement with it. -/
theorem read?_of_speed (h : c.read? d = .ok (some (.action (.movement m))))
    (hwith : d.IsWith "speed_data" v d') :
    c.read? d' = ((speedPart v).map fun sp =>
      some (.action (.movement { m with speed := sp }))).mapError (asInvalid d') :=
  read?_of_part h hwith (by decide) (by decide)
    (movementFields_of_speed (madeOf_of_decode? (read?_eq_ok.1 h)) hwith)

/-- A record with another zone is read as the same movement with it. -/
theorem read?_of_zone (h : c.read? d = .ok (some (.action (.movement m))))
    (hwith : d.IsWith "zone_data" v d') :
    c.read? d' = ((zonePart v).map fun z =>
      some (.action (.movement { m with zone := z }))).mapError (asInvalid d') :=
  read?_of_part h hwith (by decide) (by decide)
    (movementFields_of_zone (madeOf_of_decode? (read?_eq_ok.1 h)) hwith)

/-- The two ends that a text in place of the speed can come to. -/
theorem read?_of_speedText {s : String} (h : c.read? d = .ok (some (.action (.movement m))))
    (hwith : d.IsWith "speed_data" (.text s) d') :
    (∃ k sp, SpeedData.IsTakenFor s k ∧ sp.IsKnown k ∧
      c.read? d' = .ok (some (.action (.movement { m with speed := sp })))) ∨
      (∀ k, ¬ SpeedData.IsTakenFor s k) ∧ ∃ f, c.read? d' = .error f ∧ f.isExpected = true := by
  have hread := read?_of_speed h hwith
  rcases speedPart_text s with ⟨k, sp, htaken, hknown, hpart⟩ | ⟨hnone, f, hpart, hreported⟩
  · rw [hpart] at hread
    exact .inl ⟨k, sp, htaken, hknown, hread⟩
  · rw [hpart] at hread
    exact .inr ⟨hnone, _, hread, hreported d'⟩

/-- The two ends that a text in place of the zone can come to. -/
theorem read?_of_zoneText {s : String} (h : c.read? d = .ok (some (.action (.movement m))))
    (hwith : d.IsWith "zone_data" (.text s) d') :
    (∃ z, ZoneData.IsName s ∧ z.IsNamed s ∧
      c.read? d' = .ok (some (.action (.movement { m with zone := z })))) ∨
      ¬ ZoneData.IsName s ∧ ∃ f, c.read? d' = .error f ∧ f.isExpected = true := by
  have hread := read?_of_zone h hwith
  rcases zonePart_text s with ⟨z, hname, hnamed, hpart⟩ | ⟨hnone, f, hpart, hreported⟩
  · rw [hpart] at hread
    exact .inl ⟨z, hname, hnamed, hread⟩
  · rw [hpart] at hread
    exact .inr ⟨hnone, _, hread, hreported d'⟩

/-- A text that is taken for a known speed gives the same movement with that speed. -/
theorem read?_of_isTakenFor {s : String} {k : ℕ}
    (h : c.read? d = .ok (some (.action (.movement m))))
    (hwith : d.IsWith "speed_data" (.text s) d') (hk : SpeedData.IsTakenFor s k) :
    ∃ sp : SpeedData, c.read? d' = .ok (some (.action (.movement { m with speed := sp }))) ∧
      sp.IsKnown k := by
  rcases read?_of_speedText h hwith with ⟨j, sp, hj, hknown, hread⟩ | ⟨hnone, -⟩
  · obtain rfl := hj.unique hk
    exact ⟨sp, hread, hknown⟩
  · exact absurd hk (hnone k)

/-- The name of a known zone gives the same movement with that zone. -/
theorem read?_of_isName {s : String} (h : c.read? d = .ok (some (.action (.movement m))))
    (hwith : d.IsWith "zone_data" (.text s) d') (hs : ZoneData.IsName s) :
    ∃ z : ZoneData, c.read? d' = .ok (some (.action (.movement { m with zone := z }))) ∧
      z.IsNamed s := by
  rcases read?_of_zoneText h hwith with ⟨z, -, hnamed, hread⟩ | ⟨hnone, -⟩
  · exact ⟨z, hread, hnamed⟩
  · exact absurd hs hnone

/-- No other text is accepted for a speed. -/
theorem exists_isTakenFor {s : String} {e : Option Entity}
    (h : c.read? d = .ok (some (.action (.movement m))))
    (hwith : d.IsWith "speed_data" (.text s) d') (he : c.read? d' = .ok e) :
    ∃ k, SpeedData.IsTakenFor s k := by
  rcases read?_of_speedText h hwith with ⟨k, sp, hk, -⟩ | ⟨-, f, hf, -⟩
  · exact ⟨k, hk⟩
  · cases he.symm.trans hf

/-- No other text is accepted for a zone. -/
theorem isName_of_read? {s : String} {e : Option Entity}
    (h : c.read? d = .ok (some (.action (.movement m))))
    (hwith : d.IsWith "zone_data" (.text s) d') (he : c.read? d' = .ok e) : ZoneData.IsName s := by
  rcases read?_of_zoneText h hwith with ⟨z, hs, -⟩ | ⟨-, f, hf, -⟩
  · exact hs
  · cases he.symm.trans hf

/-- A text that is not accepted is a fault for the user. -/
theorem isExpected_of_text {s name : String} {f : Fault}
    (h : c.read? d = .ok (some (.action (.movement m))))
    (hname : name ∈ ["speed_data", "zone_data"]) (hwith : d.IsWith name (.text s) d')
    (hf : c.read? d' = .error f) : f.isExpected = true := by
  simp only [List.mem_cons, List.not_mem_nil, or_false] at hname
  rcases hname with rfl | rfl
  · rcases read?_of_speedText h hwith with ⟨k, sp, -, -, hread⟩ | ⟨-, g, hg, hexpected⟩
    · cases hread.symm.trans hf
    · cases hg.symm.trans hf
      exact hexpected
  · rcases read?_of_zoneText h hwith with ⟨z, -, -, hread⟩ | ⟨-, g, hg, hexpected⟩
    · cases hread.symm.trans hf
    · cases hg.symm.trans hf
      exact hexpected

/-! ### Movements with names -/

/-- What becomes of a record that is read as a movement when a text takes the place of its speed or
of its zone. -/
structure NamesMotion (c : Decoder) (d : Datum) (m : Movement) : Prop where
  /-- A text in place of the speed is accepted exactly if it is taken for a known speed. -/
  speed_iff : ∀ s d', d.IsWith "speed_data" (.text s) d' →
    ((∃ e, c.read? d' = .ok e) ↔ ∃ k, SpeedData.IsTakenFor s k)
  /-- It gives the same movement with that speed, whose name is the text exactly if the text is the
  name of a known speed. -/
  speed : ∀ s d' k, d.IsWith "speed_data" (.text s) d' → SpeedData.IsTakenFor s k →
    ∃ sp, c.read? d' = .ok (some (.action (.movement { m with speed := sp }))) ∧ sp.IsKnown k ∧
      (sp.name.text = s ↔ SpeedData.IsKnownName s)
  /-- So the name of every known speed gives the movement with that. -/
  knownSpeed : ∀ k ∈ SpeedData.known, ∀ d',
    d.IsWith "speed_data" (.text (SpeedData.knownName k)) d' →
    ∃ sp, c.read? d' = .ok (some (.action (.movement { m with speed := sp }))) ∧ sp.IsKnown k
  /-- A text in place of the zone is accepted exactly if it is the name of a known zone. -/
  zone_iff : ∀ s d', d.IsWith "zone_data" (.text s) d' →
    ((∃ e, c.read? d' = .ok e) ↔ ZoneData.IsName s)
  /-- It gives the same movement with the zone of this name. -/
  zone : ∀ s d', d.IsWith "zone_data" (.text s) d' → ZoneData.IsName s →
    ∃ z, c.read? d' = .ok (some (.action (.movement { m with zone := z }))) ∧ z.IsNamed s
  /-- All other texts are faults for the user. -/
  refused : ∀ name ∈ ["speed_data", "zone_data"], ∀ s d' f, d.IsWith name (.text s) d' →
    c.read? d' = .error f → f.isExpected = true

/-- **Which names of speeds and zones are accepted**, and what for. -/
theorem read?_namesMotion (h : c.read? d = .ok (some (.action (.movement m)))) :
    c.NamesMotion d m := by
  refine ⟨fun s d' hwith => ⟨?_, ?_⟩, fun s d' k hwith hk => ?_, fun k hk d' hwith => ?_,
    fun s d' hwith => ⟨?_, ?_⟩, fun s d' => read?_of_isName h,
    fun name hname s d' f => isExpected_of_text h hname⟩
  · rintro ⟨e, he⟩
    exact exists_isTakenFor h hwith he
  · rintro ⟨k, hk⟩
    obtain ⟨sp, hread, -⟩ := read?_of_isTakenFor h hwith hk
    exact ⟨_, hread⟩
  · obtain ⟨sp, hread, hknown⟩ := read?_of_isTakenFor h hwith hk
    refine ⟨sp, hread, hknown, ?_⟩
    rw [hknown.name, hk.knownName_eq_iff]
  · exact read?_of_isTakenFor h hwith (SpeedData.isTakenFor_knownName hk)
  · rintro ⟨e, he⟩
    exact isName_of_read? h hwith he
  · intro hs
    obtain ⟨z, hread, -⟩ := read?_of_isName h hwith hs
    exact ⟨_, hread⟩

end Decoder

/-- The fields of a movement to a point, of the usual speed. -/
def pathFields : Datum.Fields :=
  [(.text "type", .text "movement"), (.text "target", .record [(.text "name", .text "p")])]

/-- A movement with a doubled letter in the name of its speed is the one with the speed, which has
the name with a single one. -/
theorem read?_namesMotion_doubled : ∃ m sp,
    Decoder.read? ⟨none, []⟩ (.record pathFields) = .ok (some (.action (.movement m))) ∧
      Decoder.read? ⟨none, []⟩
          (.record (Datum.insert pathFields (.text "speed_data") (.text "vv1000"))) =
        .ok (some (.action (.movement { m with speed := sp }))) ∧
      sp.IsKnown 1000 ∧ ¬ SpeedData.IsKnownName "vv1000" := by
  have hfields : (Decoder.movementFields ⟨none, []⟩ (.record pathFields)).toBool = true := by
    decide +kernel
  obtain ⟨m, hm⟩ := exists_ok_of_toBool hfields
  have hread : Decoder.read? ⟨none, []⟩ (.record pathFields) =
      .ok (some (.action (.movement m))) := by
    rw [Decoder.read?_of_checkRecord rfl, hm]
    rfl
  have hthousand : SpeedData.IsTakenFor "vv1000" 1000 :=
    SpeedData.isTakenFor_letter.2 (SpeedData.isTakenFor_knownName (by decide))
  obtain ⟨sp, hother, hknown, hname⟩ := (Decoder.read?_namesMotion hread).speed "vv1000" _ 1000
    (Datum.isWith_insert _ _ _) hthousand
  refine ⟨m, sp, hread, hother, hknown, ?_⟩
  rw [← hname, hknown.name]
  decide

end SixAxis
