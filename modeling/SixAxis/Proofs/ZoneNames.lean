import SixAxis.Proofs.MotionData
import SixAxis.Proofs.NonnegativeDoubles
import SixAxis.Proofs.SerializedActions
import SixAxis.Proofs.WrittenNames

/-!
# Names of zones

The zone of a radius is named by what is written of the radius, with two decimals: `z10` if the
controller knows a zone of that name, and else `zone12_3` with a declaration of its own.  The sizes
of the latter are products of the radius itself, and they are rounded again when they are written.

So radii that are not the same can have one name.  They are all known or none is, and known ones are
the same zone; but of others the declarations agree only if the products round alike as well, which
the name does not tell.

* `CodeNumber.WrittenAlike` — when two numbers have the same text;
* `ZoneData.IsAccepted` — the radii that there is a zone of, `ZoneData.RoundsToKnown` — those of
  known zones;
* `ZoneData.IsOfRadius` — what the zone of a radius is;
* `ZoneData.SharesName` — when two zones have the same name, and what this says about them;
* `ZoneData.ofRadius_named` — **the zones of radii and their names**.
-/

namespace SixAxis

/-! ### Numbers with the same text -/

namespace CodeNumber

variable {x y : Float}

/-- Whether two doubles have the same text: both count as the marker of an unconnected axis, or both
round to the same number, or both are no number, or the same infinity. -/
def WrittenAlike (decimals : ℕ) (x y : Float) : Prop :=
  (x.isFinite = true ∧ y.isFinite = true ∧
    ((isUnconnected x = true ∧ isUnconnected y = true) ∨
      (isUnconnected x = false ∧ isUnconnected y = false ∧
        Decimal.rounded (Double.value x) decimals = Decimal.rounded (Double.value y) decimals))) ∨
  (x.isFinite = false ∧ y.isFinite = false ∧ x.isNaN = y.isNaN ∧ (x < 0.0 ↔ y < 0.0))

instance {decimals : ℕ} : Decidable (WrittenAlike decimals x y) :=
  inferInstanceAs (Decidable ((_ ∧ _ ∧ ((_ ∧ _) ∨ (_ ∧ _ ∧ _))) ∨ (_ ∧ _ ∧ _ ∧ (_ ↔ _))))

theorem not_lt_of_isNaN (h : x.isNaN = true) : ¬ x < 0.0 := by
  replace h : x.toModel.unpack.isNaN = true := h
  rw [Double.lt_iff]
  revert h
  cases x.toModel.unpack with
  | notANumber => exact fun _ => nofun
  | _ => exact nofun

/-- Doubles have the same text exactly if they are written alike. -/
theorem text_eq_text_iff {decimals : ℕ} :
    text x decimals = text y decimals ↔ WrittenAlike decimals x y := by
  have hkind : text x decimals = text y decimals → x.isFinite = y.isFinite := by
    intro h
    rw [← isCodeNumeral_text x decimals, ← isCodeNumeral_text y decimals, h]
  rw [WrittenAlike]
  cases hx : x.isFinite with
  | true =>
    cases hy : y.isFinite with
    | true =>
      rw [(text_isText hx decimals).eq_iff (text_isText hy decimals)]
      simp
    | false =>
      rw [hx, hy] at hkind
      exact iff_of_false (fun h => Bool.false_ne_true (hkind h).symm) (by simp)
  | false =>
    cases hy : y.isFinite with
    | true =>
      rw [hx, hy] at hkind
      exact iff_of_false (fun h => Bool.false_ne_true (hkind h)) (by simp)
    | false =>
      rw [text_of_not_isFinite hx, text_of_not_isFinite hy]
      cases hxnan : x.isNaN with
      | true =>
        cases hynan : y.isNaN with
        | true => simp [not_lt_of_isNaN hxnan, not_lt_of_isNaN hynan]
        | false => by_cases hylow : y < 0.0 <;> simp [hylow]
      | false =>
        by_cases hxlow : x < 0.0
        · cases hynan : y.isNaN with
          | true => simp [hxlow]
          | false => by_cases hylow : y < 0.0 <;> simp [hxlow, hylow]
        · cases hynan : y.isNaN with
          | true => simp [hxlow]
          | false => by_cases hylow : y < 0.0 <;> simp [hxlow, hylow]

end CodeNumber

/-! ### Names -/

theorem isNameChar_of_isAlphanum {c : Char} (h : c.isAlphanum = true) : isNameChar c = true := by
  have hascii : c.toNat < 128 := by
    simp only [Char.isAlphanum, Char.isAlpha, Char.isUpper, Char.isLower, Char.isDigit,
      Bool.or_eq_true, Bool.and_eq_true, decide_eq_true_iff, ge_iff_le, UInt32.le_iff_toNat_le,
      Char.toNat_val, Char.reduceVal, UInt32.reduceToNat] at h
    omega
  rw [isNameChar, Text.isAlphanumeric, if_pos hascii, h, Bool.or_true]

namespace ZoneData

/-- Whether a number is the one of a stop. -/
def isStop (n : Number) : Bool := n.same (.whole (-1))

/-- The name of a zone of its own, from what is written of its radius. -/
def ownName (text : String) : String := "zone" ++ text.map fun c => if c = '.' then '_' else c

/-- Whether a zone of a name is known. -/
def isKnownName (name : String) : Bool := known.any (·.1 == name)

/-- The name of the zone of a radius. -/
def radiusName (n : Number) : String :=
  if isStop n then fineName
  else if isKnownName ("z" ++ CodeNumber.text n.value) then "z" ++ CodeNumber.text n.value
  else ownName (CodeNumber.text n.value)

/-- The radii in the names of the corner paths that the controller knows. -/
def knownRadii : List ℕ := [0, 1, 5, 10, 15, 20, 30, 40, 50, 60, 80, 100, 150, 200]

/-- Whether a double rounds to the radius in the name of a known corner path. -/
def RoundsToKnown (x : Float) : Prop :=
  x.isFinite = true ∧ isUnconnected x = false ∧
    ∃ k ∈ knownRadii, Decimal.rounded (Double.value x) CodeNumber.lengthDecimals = k

instance (x : Float) : Decidable (RoundsToKnown x) :=
  inferInstanceAs (Decidable (_ ∧ _ ∧ ∃ k ∈ knownRadii, _))

/-- The names of the known corner paths are written from their radii. -/
theorem map_fst_known : known.map (·.1) =
    knownRadii.map fun (k : ℕ) => "z" ++ CodeNumber.text (Decimal.Binary.floatOfInt k) := by
  decide +kernel

theorem isKnownName_iff (x : Float) :
    isKnownName ("z" ++ CodeNumber.text x) = true ↔ RoundsToKnown x := by
  have hradii : ∀ k ∈ knownRadii, (Decimal.Binary.floatOfInt k).isFinite = true ∧
      isUnconnected (Decimal.Binary.floatOfInt k) = false ∧
      Decimal.rounded (Double.value (Decimal.Binary.floatOfInt k)) CodeNumber.lengthDecimals =
        k := by
    decide +kernel
  have hnames : isKnownName ("z" ++ CodeNumber.text x) = true ↔
      "z" ++ CodeNumber.text x ∈ known.map (·.1) := by
    simp [isKnownName]
  rw [hnames, map_fst_known, List.mem_map]
  constructor
  · rintro ⟨k, hk, hname⟩
    obtain ⟨hfinite, hmarker, hrounded⟩ := hradii k hk
    have htext := CodeNumber.text_eq_text_iff.1 (String.append_right_inj _ |>.1 hname)
    rcases htext with ⟨-, hx, ⟨hmarker', -⟩ | ⟨-, hmarker', hsame⟩⟩ | ⟨hinfinite, -⟩
    · cases hmarker.symm.trans hmarker'
    · exact ⟨hx, hmarker', k, hk, hsame.symm.trans hrounded⟩
    · cases hfinite.symm.trans hinfinite
  · rintro ⟨hx, hmarker, k, hk, hrounded⟩
    obtain ⟨hfinite, hmarker', hrounded'⟩ := hradii k hk
    have htext : CodeNumber.text (Decimal.Binary.floatOfInt k) = CodeNumber.text x :=
      CodeNumber.text_eq_text_iff.2
        (.inl ⟨hfinite, hx, .inr ⟨hmarker', hmarker, hrounded'.trans hrounded.symm⟩⟩)
    exact ⟨k, hk, by rw [htext]⟩

/-! ### Names of their own -/

section Own

variable {s t : String} (hs : ∀ c ∈ s.toList, c = '.' ∨ c.isAlphanum = true)

include hs

/-- The name of a zone of its own is an identifier. -/
theorem isIdentifier_ownName : isIdentifier (ownName s) = true := by
  refine isIdentifier_append (by decide) (List.all_eq_true.2 fun c hc => ?_)
  rw [String.toList_map, List.mem_map] at hc
  obtain ⟨d, hd, rfl⟩ := hc
  split
  · decide
  · rename_i hpoint
    exact isNameChar_of_isAlphanum ((hs d hd).resolve_left hpoint)

/-- What the name is written from is found again in it. -/
theorem map_map_of_alphanum :
    (s.map fun c => if c = '.' then '_' else c).map (fun c => if c = '_' then '.' else c) = s := by
  rw [← String.toList_inj, String.toList_map, String.toList_map, List.map_map]
  refine (List.map_congr_left fun c hc => ?_).trans (List.map_id _)
  rcases hs c hc with rfl | halphanum
  · rfl
  · have hpoint : c ≠ '.' := by
      rintro rfl
      cases halphanum
    have hline : c ≠ '_' := by
      rintro rfl
      cases halphanum
    simp only [Function.comp_apply, if_neg hpoint, if_neg hline, id_eq]

theorem eq_of_ownName_eq (ht : ∀ c ∈ t.toList, c = '.' ∨ c.isAlphanum = true)
    (h : ownName s = ownName t) : s = t := by
  have hmapped := (String.append_right_inj _).1 h
  rw [← map_map_of_alphanum hs, ← map_map_of_alphanum ht, hmapped]

omit hs in
/-- No zone of its own has the name of the stop, or of a known zone. -/
theorem ownName_ne : ownName s ≠ fineName ∧ isKnownName (ownName s) = false := by
  have hletters : (ownName s).toList.take 2 = ['z', 'o'] := by
    rw [ownName, String.toList_append]
    rfl
  have hknown : known.all (fun entry => entry.1.toList.take 2 != ['z', 'o']) = true := by decide
  constructor
  · intro hfine
    rw [hfine] at hletters
    cases hletters
  · rw [isKnownName, List.any_eq_false]
    intro entry hentry hname
    have hother := List.all_eq_true.1 hknown entry hentry
    rw [eq_of_beq hname, hletters] at hother
    cases hother

end Own

/-! ### Names of radii -/

/-- Whether there is a zone of a radius: minus one, or a number that is not below zero and has a
double nearest to it. -/
def IsAccepted (n : Number) : Prop :=
  isStop n = true ∨ (¬ n < .whole 0 ∧ ∃ x, n.toReal = .ok x)

variable {n p q : Number}

theorem radiusName_of_isStop (h : isStop n = true) : radiusName n = fineName := if_pos h

theorem radiusName_ne_fineName (h : isStop n = false) : radiusName n ≠ fineName := by
  have hfine : isKnownName fineName = false := by decide
  rw [radiusName, h, if_neg Bool.false_ne_true]
  split
  · rename_i hknown
    intro hname
    rw [hname, hfine] at hknown
    cases hknown
  · exact ownName_ne.1

/-- What is written of a radius other than the stop is letters and digits, and at most a point. -/
theorem isAlphanum_of_mem_radius (hn : IsAccepted n) (hstop : isStop n = false) :
    ∀ c ∈ (CodeNumber.text n.value).toList, c = '.' ∨ c.isAlphanum = true := by
  have hnonneg := (hn.resolve_left (Bool.eq_false_iff.1 hstop)).1
  exact fun _ => CodeNumber.isAlphanum_of_mem_text (Number.isNegative_value hnonneg) _

/-- Zones of radii have the same name exactly if both are the stop, or neither is and the radii are
written alike. -/
theorem radiusName_eq_iff (hp : IsAccepted p) (hq : IsAccepted q) :
    radiusName p = radiusName q ↔ (isStop p = true ∧ isStop q = true) ∨
      (isStop p = false ∧ isStop q = false ∧
        CodeNumber.WrittenAlike CodeNumber.lengthDecimals p.value q.value) := by
  cases hpstop : isStop p with
  | true =>
    rw [radiusName_of_isStop hpstop]
    cases hqstop : isStop q with
    | true => exact iff_of_true (radiusName_of_isStop hqstop).symm (.inl ⟨rfl, rfl⟩)
    | false => exact iff_of_false (radiusName_ne_fineName hqstop).symm (by simp)
  | false =>
    cases hqstop : isStop q with
    | true =>
      rw [radiusName_of_isStop hqstop]
      exact iff_of_false (radiusName_ne_fineName hpstop) (by simp)
    | false =>
      have hsame : radiusName p = radiusName q ↔
          CodeNumber.text p.value = CodeNumber.text q.value := by
        rw [radiusName, radiusName, hpstop, hqstop, if_neg Bool.false_ne_true,
          if_neg Bool.false_ne_true]
        constructor
        · intro hname
          split at hname
          · rename_i hknown
            split at hname
            · exact (String.append_right_inj _).1 hname
            · rw [hname, ownName_ne.2] at hknown
              cases hknown
          · split at hname
            · rename_i hknown
              rw [← hname, ownName_ne.2] at hknown
              cases hknown
            · exact eq_of_ownName_eq (isAlphanum_of_mem_radius hp hpstop)
                (isAlphanum_of_mem_radius hq hqstop) hname
        · intro htext
          rw [htext]
      rw [hsame, CodeNumber.text_eq_text_iff]
      simp

/-! ### Zones of radii -/

/-- What zone data with given sizes are. -/
theorem parts_of_ofSizes {name : String} {stops predefined : Datum} {sizes : ZoneSizes}
    {z : ZoneData} (h : ofSizes (.text name) stops sizes predefined = .ok z) :
    z.name.text = name ∧ z.stops = stops ∧ z.sizes = sizes ∧ z.predefined = predefined := by
  obtain ⟨n, hn, h⟩ := bind_eq_ok.1 h
  have hname : n.text = name := by
    rw [Identifier.ofData, Identifier.ofText] at hn
    split at hn
    · cases hn
      rfl
    · cases hn
  split at h
  · cases h
  · cases h
    exact ⟨hname, rfl, rfl, rfl⟩

/-- What the zone of a radius is. -/
structure IsOfRadius (n : Number) (z : ZoneData) : Prop where
  name : z.name.text = radiusName n
  /-- It is known exactly if the radius is minus one or rounds to that of a known zone, and then the
  controller knows it by its name. -/
  predefined_iff : z.predefined = .bool true ↔ isStop n = true ∨ RoundsToKnown n.value
  known : z.predefined = .bool true → z.isBuiltIn = true
  /-- Every other zone is one of its own, with the sizes of the radius that it was made from. -/
  own : z.predefined ≠ .bool true →
    z.predefined = .bool false ∧ z.stops = .bool false ∧ z.sizes = .ofRadius n

theorem ofRadius_of_isStop (h : isStop n = true) : ofRadius (.number n) = fine := if_pos h

theorem ofRadius_of_nonneg (hstop : isStop n = false) (h : ¬ n < .whole 0) {x : Float}
    (hx : n.toReal = .ok x) : ofRadius (.number n) =
      match ofKnown? ("z" ++ CodeNumber.text n.value) with
      | some zone => zone
      | none => ofSizes (.text (ownName (CodeNumber.text n.value))) (.bool false) (.ofRadius n)
          (.bool false) := by
  have hstop' : ¬ n.same (.whole (-1)) = true := Bool.eq_false_iff.1 hstop
  have hnumber : CodeNumber.ofNumber n = .ok (CodeNumber.text n.value) := by
    rw [CodeNumber.ofNumber, hx, Number.value_of_toReal hx]
    rfl
  show (if n.same (.whole (-1)) = true then fine
    else if n < .whole 0 then .error (ActionFault.zonePrecision n) else _) = _
  rw [if_neg hstop', if_neg h, hnumber]
  rfl

theorem ofKnown?_of_isKnownName {name : String} (h : isKnownName name = true) :
    ∃ sizes, ofKnown? name = some (ofSizes (.text name) (.bool false) sizes (.bool true)) := by
  obtain ⟨⟨key, sizes⟩, hentry⟩ := Option.isSome_iff_exists.1
    (List.find?_isSome.2 (List.any_eq_true.1 h))
  have hkey := List.find?_some hentry
  obtain rfl : key = name := eq_of_beq hkey
  exact ⟨sizes, by rw [ofKnown?, hentry, Option.map_some]⟩

theorem ofKnown?_of_not_isKnownName {name : String} (h : isKnownName name = false) :
    ofKnown? name = none := by
  have hnone : known.find? (·.1 == name) = none :=
    List.find?_eq_none.2 (List.any_eq_false.1 h)
  rw [ofKnown?, hnone, Option.map_none]

theorem make_eq_ofSizes (name : Identifier) (stops predefined : Datum) (sizes : ZoneSizes) :
    make (.text name.text) stops (.number sizes.path) (.number sizes.turning) (.number sizes.axes)
      (.number sizes.turningAngle) (.number sizes.linearAxes) (.number sizes.rotaryAxes)
      predefined = ofSizes (.text name.text) stops sizes predefined := by
  rw [make, Identifier.ofData_text]
  rfl

theorem fine_eq_ofSizes : fine = ofSizes (.text fineName) (.bool true)
    (.ofThree (.real 0.0) (.real 0.0) (.real 0.0)) (.bool true) :=
  make_eq_ofSizes ⟨fineName, by decide⟩ _ _ (.ofThree (.real 0.0) (.real 0.0) (.real 0.0))

theorem leastNumber_mem (first : Number) (rest : List Number) :
    leastNumber first rest ∈ first :: rest := by
  rw [leastNumber]
  induction rest generalizing first with
  | nil => exact List.mem_singleton.2 rfl
  | cons n rest ih =>
    rw [List.foldl_cons]
    have hmem := ih (if n < first then n else first)
    rcases List.mem_cons.1 hmem with hfirst | hrest
    · rw [hfirst]
      split
      · exact List.mem_cons_of_mem _ List.mem_cons_self
      · exact List.mem_cons_self
    · exact List.mem_cons_of_mem _ (List.mem_cons_of_mem _ hrest)

theorem anyNegative_eq_false {ns : List Number} (h : ∀ n ∈ ns, ¬ n < .whole 0) :
    anyNegative ns = false := by
  cases ns with
  | nil => rfl
  | cons n rest => exact decide_eq_false (h _ (leastNumber_mem n rest))

/-- The sizes of a radius that is not below zero are not below zero. -/
theorem anyNegative_ofRadius (h : ¬ n < .whole 0) :
    anyNegative (ZoneSizes.ofRadius n).toList = false := by
  have hvalue := Number.isNegative_value h
  have hother : ¬ (.real (1.5 * n.value) : Number) < .whole 0 :=
    mt Double.lt_zero_iff.1 (Bool.eq_false_iff.1 (Double.isNegative_mul (c := 1.5) rfl hvalue))
  have hangle : ¬ (.real (0.15 * n.value) : Number) < .whole 0 :=
    mt Double.lt_zero_iff.1 (Bool.eq_false_iff.1 (Double.isNegative_mul (c := 0.15) rfl hvalue))
  refine anyNegative_eq_false fun k hk => ?_
  simp only [ZoneSizes.ofRadius, ZoneSizes.ofThree, ZoneSizes.toList, List.mem_cons,
    List.not_mem_nil, or_false] at hk
  rcases hk with rfl | rfl | rfl | rfl | rfl | rfl
  · exact h
  · exact hother
  · exact hother
  · exact hangle
  · exact hother
  · exact hangle

/-- There is a zone of its own for every text of letters and digits. -/
theorem exists_ofSizes_ownName {s : String} (hs : ∀ c ∈ s.toList, c = '.' ∨ c.isAlphanum = true)
    (h : ¬ n < .whole 0) :
    ∃ z, ofSizes (.text (ownName s)) (.bool false) (.ofRadius n) (.bool false) = .ok z := by
  rw [ofSizes, Identifier.ofData_text ⟨ownName s, isIdentifier_ownName hs⟩]
  exact ⟨_, dif_neg (Bool.eq_false_iff.1 (anyNegative_ofRadius h))⟩

/-- There is a zone of minus one, and of every number that is not below zero and has a double nearest
to it. -/
theorem exists_ofRadius_iff : (∃ z, ofRadius (.number n) = .ok z) ↔ IsAccepted n := by
  constructor
  · rintro ⟨z, hz⟩
    by_cases hstop : isStop n = true
    · exact .inl hstop
    · have hz' : (if isStop n = true then fine
          else if n < .whole 0 then .error (ActionFault.zonePrecision n) else _) = .ok z := hz
      rw [if_neg hstop] at hz'
      split at hz'
      · cases hz'
      · rename_i hnonneg
        obtain ⟨text, htext, -⟩ := bind_eq_ok.1 hz'
        obtain ⟨x, hx, -⟩ := bind_eq_ok.1 htext
        exact .inr ⟨hnonneg, x, hx⟩
  · intro haccepted
    cases hstop : isStop n with
    | true =>
      obtain ⟨z, hz, -⟩ := isBuiltIn_fine
      exact ⟨z, (ofRadius_of_isStop hstop).trans hz⟩
    | false =>
      obtain ⟨hnonneg, x, hx⟩ := haccepted.resolve_left (Bool.eq_false_iff.1 hstop)
      rw [ofRadius_of_nonneg hstop hnonneg hx]
      cases hknown : isKnownName ("z" ++ CodeNumber.text n.value) with
      | true =>
        obtain ⟨sizes, hsizes⟩ := ofKnown?_of_isKnownName hknown
        obtain ⟨z, hz, -⟩ := isBuiltIn_ofKnown? hsizes
        rw [hsizes]
        exact ⟨z, hz⟩
      | false =>
        rw [ofKnown?_of_not_isKnownName hknown]
        exact exists_ofSizes_ownName (isAlphanum_of_mem_radius haccepted hstop) hnonneg

/-- The zone of a radius is what it should be. -/
theorem isOfRadius {z : ZoneData} (h : ofRadius (.number n) = .ok z) : IsOfRadius n z := by
  cases hstop : isStop n with
  | true =>
    rw [ofRadius_of_isStop hstop] at h
    obtain ⟨z', hz', hbuilt⟩ := isBuiltIn_fine
    cases h.symm.trans hz'
    rw [fine_eq_ofSizes] at h
    obtain ⟨hname, -, -, hpredefined⟩ := parts_of_ofSizes h
    exact ⟨hname.trans (radiusName_of_isStop hstop).symm,
      iff_of_true hpredefined (.inl hstop), fun _ => hbuilt, fun hown => absurd hpredefined hown⟩
  | false =>
    obtain ⟨hnonneg, x, hx⟩ :=
      (exists_ofRadius_iff.1 ⟨z, h⟩).resolve_left (Bool.eq_false_iff.1 hstop)
    rw [ofRadius_of_nonneg hstop hnonneg hx] at h
    cases hknown : isKnownName ("z" ++ CodeNumber.text n.value) with
    | true =>
      obtain ⟨sizes, hsizes⟩ := ofKnown?_of_isKnownName hknown
      obtain ⟨z', hz', hbuilt⟩ := isBuiltIn_ofKnown? hsizes
      rw [hsizes] at h
      cases h.symm.trans hz'
      obtain ⟨hname, -, -, hpredefined⟩ := parts_of_ofSizes h
      have hradius : radiusName n = "z" ++ CodeNumber.text n.value := by
        rw [radiusName, hstop, if_neg Bool.false_ne_true, if_pos hknown]
      exact ⟨hname.trans hradius.symm,
        iff_of_true hpredefined (.inr ((isKnownName_iff _).1 hknown)), fun _ => hbuilt,
        fun hown => absurd hpredefined hown⟩
    | false =>
      rw [ofKnown?_of_not_isKnownName hknown] at h
      obtain ⟨hname, hstops, hsizes, hpredefined⟩ := parts_of_ofSizes h
      have hradius : radiusName n = ownName (CodeNumber.text n.value) := by
        rw [radiusName, hstop, if_neg Bool.false_ne_true, hknown, if_neg Bool.false_ne_true]
      have hother : ¬ z.predefined = .bool true := by
        rw [hpredefined]
        exact nofun
      refine ⟨hname.trans hradius.symm, iff_of_false hother ?_, fun hp => absurd hp hother,
        fun _ => ⟨hpredefined, hstops, hsizes⟩⟩
      rintro (hyes | hrounds)
      · cases hstop.symm.trans hyes
      · cases hknown.symm.trans ((isKnownName_iff _).2 hrounds)

/-! ### Declarations of zones with the same name -/

/-- The sizes of a radius are written for every radius that there is a zone of. -/
theorem ofNumbers_ofRadius (hn : IsAccepted n) (hstop : isStop n = false) :
    CodeNumber.ofNumbers (ZoneSizes.ofRadius n).toList =
      .ok (CodeNumber.list ((ZoneSizes.ofRadius n).toList.map Numeral.value)) := by
  obtain ⟨-, x, hx⟩ := hn.resolve_left (Bool.eq_false_iff.1 hstop)
  obtain rfl := Number.value_of_toReal hx
  have hnumbers : (ZoneSizes.ofRadius n).toList.mapM Number.toReal =
      .ok ((ZoneSizes.ofRadius n).toList.map Numeral.value) := by
    rw [ZoneSizes.ofRadius, ZoneSizes.ofThree, ZoneSizes.toList, List.mapM_cons, hx]
    rfl
  rw [CodeNumber.ofNumbers, hnumbers]
  rfl

/-- A known zone is not declared, and one of its own is declared in one statement. -/
theorem declaration_of_isOfRadius {z : ZoneData} (hn : IsAccepted n) (h : IsOfRadius n z) :
    (z.predefined = .bool true ∧ z.declaration = .ok "") ∨
      (z.predefined = .bool false ∧ z.declaration = .ok z.statement.text ∧
        z.statement = .zone z.name.text false
          [n.value, 1.5 * n.value, 1.5 * n.value, 0.15 * n.value, 1.5 * n.value,
            0.15 * n.value]) := by
  by_cases hpredefined : z.predefined = .bool true
  · refine .inl ⟨hpredefined, ?_⟩
    rw [declaration, hpredefined]
    rfl
  · obtain ⟨hother, hstops, hsizes⟩ := h.own hpredefined
    have hstop : isStop n = false := by
      rw [Bool.eq_false_iff]
      exact fun hstop => hpredefined (h.predefined_iff.2 (.inl hstop))
    refine .inr ⟨hother, ?_, ?_⟩
    · obtain ⟨code, hcode, hwritten⟩ : ∃ code, z.declaration = .ok code ∧ code ≠ "" := by
        rw [declaration, hother, hsizes]
        simp only [ofNumbers_ofRadius hn hstop]
        refine ⟨_, rfl, fun hempty => ?_⟩
        have hcharacters := congrArg String.toList hempty
        simp [toString] at hcharacters
      rw [hcode, text_of_declaration hcode hwritten]
    · rw [statement, hsizes, hstops]
      rfl

/-- What the names of two zones of radii say about them. -/
structure SharesName (p q : Number) (z w : ZoneData) : Prop where
  /-- The names are the same if both are the stop, or neither is and the radii are written alike. -/
  name_iff : z.name.text = w.name.text ↔ (isStop p = true ∧ isStop q = true) ∨
    (isStop p = false ∧ isStop q = false ∧
      CodeNumber.WrittenAlike CodeNumber.lengthDecimals p.value q.value)
  /-- Then both are known, and the same zone with no declaration, or neither is. -/
  known : z.name.text = w.name.text → z.predefined = .bool true → w = z ∧ z.declaration = .ok ""
  /-- If neither is known, their declarations are the same only if the sizes are written alike that
  follow from the radii. -/
  declaration_iff : z.name.text = w.name.text → z.predefined = .bool false →
    w.predefined = .bool false ∧
    (z.declaration = w.declaration ↔
      CodeNumber.WrittenAlike CodeNumber.lengthDecimals (1.5 * p.value) (1.5 * q.value) ∧
      CodeNumber.WrittenAlike CodeNumber.lengthDecimals (0.15 * p.value) (0.15 * q.value))

/-- Statements of zones with the same name are the same exactly if the three sizes are written alike
that the others repeat. -/
theorem text_zone_eq_iff {name : String} (hname : IsWord name) (a b c a' b' c' : Float) :
    (Statement.zone name false [a, b, b, c, b, c]).text =
        (Statement.zone name false [a', b', b', c', b', c']).text ↔
      CodeNumber.text a = CodeNumber.text a' ∧ CodeNumber.text b = CodeNumber.text b' ∧
        CodeNumber.text c = CodeNumber.text c' := by
  have hreadable (xs : List Float) : (Statement.zone name false xs).IsReadable :=
    ⟨fun n hn => List.mem_singleton.1 hn ▸ hname, nofun, nofun⟩
  constructor
  · intro htext
    have htokens := congrArg Token.scan htext
    rw [(hreadable _).scan_text, (hreadable _).scan_text] at htokens
    simp only [Statement.tokens, Statement.pieces, List.flatMap_cons, List.append_cancel_left_eq,
      Piece.tokens, List.append_cancel_right_eq, List.map_cons, List.map_nil,
      List.intersperse_cons_cons, List.cons.injEq, Token.word.injEq] at htokens
    obtain ⟨ha, -, hb, -, -, -, hc, -⟩ := htokens
    exact ⟨ha, hb, hc⟩
  · rintro ⟨ha, hb, hc⟩
    simp only [Statement.text, Statement.pieces, Piece.textOf, Piece.text, CodeNumber.list,
      List.map_cons, List.map_nil, ha, hb, hc]

/-- What two zones of radii share. -/
theorem sharesName {z w : ZoneData} (hz : ofRadius (.number p) = .ok z)
    (hw : ofRadius (.number q) = .ok w) : SharesName p q z w := by
  have hp := exists_ofRadius_iff.1 ⟨z, hz⟩
  have hq := exists_ofRadius_iff.1 ⟨w, hw⟩
  have hzp := isOfRadius hz
  have hwq := isOfRadius hw
  have hname := radiusName_eq_iff hp hq
  rw [← hzp.name, ← hwq.name] at hname
  have hknown (hsame : z.name.text = w.name.text) (hz' : z.predefined = .bool true) : w = z := by
    rcases hname.1 hsame with ⟨hpstop, hqstop⟩ | ⟨hpstop, hqstop, halike⟩
    · rw [ofRadius_of_isStop hpstop] at hz
      rw [ofRadius_of_isStop hqstop, hz] at hw
      exact (Except.ok.inj hw).symm
    · have hrounds := (hzp.predefined_iff.1 hz').resolve_left (Bool.eq_false_iff.1 hpstop)
      obtain ⟨sizes, hsizes⟩ := ofKnown?_of_isKnownName ((isKnownName_iff p.value).2 hrounds)
      obtain ⟨hpnonneg, x, hx⟩ := hp.resolve_left (Bool.eq_false_iff.1 hpstop)
      obtain ⟨hqnonneg, y, hy⟩ := hq.resolve_left (Bool.eq_false_iff.1 hqstop)
      rw [ofRadius_of_nonneg hpstop hpnonneg hx, hsizes] at hz
      rw [ofRadius_of_nonneg hqstop hqnonneg hy, ← CodeNumber.text_eq_text_iff.2 halike, hsizes,
        hz] at hw
      exact (Except.ok.inj hw).symm
  have hdeclared := declaration_of_isOfRadius hp hzp
  refine ⟨hname, fun hsame hz' => ⟨hknown hsame hz', ?_⟩, fun hsame hz' => ?_⟩
  · rcases hdeclared with ⟨-, hsilent⟩ | ⟨hother, -⟩
    · exact hsilent
    · cases hother.symm.trans hz'
  · have hnotp : ¬ (isStop p = true ∨ RoundsToKnown p.value) := by
      rw [← hzp.predefined_iff, hz']
      exact nofun
    rcases hname.1 hsame with ⟨hpstop, -⟩ | ⟨hpstop, hqstop, halike⟩
    · exact absurd (.inl hpstop) hnotp
    have htext := CodeNumber.text_eq_text_iff.2 halike
    have hnotq : ¬ (isStop q = true ∨ RoundsToKnown q.value) := by
      rw [← isKnownName_iff, ← htext, isKnownName_iff, hqstop, ← hpstop]
      exact hnotp
    have hother : w.predefined ≠ .bool true := mt hwq.predefined_iff.1 hnotq
    rcases hdeclared with ⟨hyes, -⟩ | ⟨-, hzcode, hzstatement⟩
    · cases hz'.symm.trans hyes
    rcases declaration_of_isOfRadius hq hwq with ⟨hyes, -⟩ | ⟨hw', hwcode, hwstatement⟩
    · exact absurd hyes hother
    refine ⟨hw', ?_⟩
    rw [hzcode, hwcode, Except.ok.injEq, hzstatement, hwstatement, hsame,
      text_zone_eq_iff (isWord_of_isIdentifier w.name.valid), ← CodeNumber.text_eq_text_iff,
      ← CodeNumber.text_eq_text_iff]
    exact and_iff_right htext

/-- What there is to say about the zones of radii and their names. -/
structure NamesRadii (p q : Number) : Prop where
  /-- There is a zone of minus one, and of every number that is not below zero and that has a double
  nearest to it. -/
  accepted_iff : (∃ z, ofRadius (.number p) = .ok z) ↔ IsAccepted p
  /-- It is known exactly if the radius is minus one or rounds to that of a known zone. -/
  zone : ∀ z, ofRadius (.number p) = .ok z → IsOfRadius p z
  /-- Zones with the same name are the same known zone, or zones of their own that may differ. -/
  names : ∀ z w, ofRadius (.number p) = .ok z → ofRadius (.number q) = .ok w → SharesName p q z w

/-- **The zones of radii and their names.** -/
theorem ofRadius_named (p q : Number) : NamesRadii p q :=
  ⟨exists_ofRadius_iff, fun _ => isOfRadius, fun _ _ => sharesName⟩

/-- The zones of two radii that are both written as 12.3 have the same name and other declarations,
and a radius that is only written as 10 gives the known zone of 10. -/
theorem ofRadius_named_twelve :
    (∃ z w, ofRadius (.real 12.3) = .ok z ∧ ofRadius (.real 12.304) = .ok w ∧
      z.name.text = w.name.text ∧ z.declaration ≠ w.declaration) ∧
    ∃ z, ofRadius (.real 10.001) = .ok z ∧ z.predefined = .bool true := by
  have haccepted {x : Float} (hx : ¬ (.real x : Number) < .whole 0) : IsAccepted (.real x) :=
    .inr ⟨hx, x, rfl⟩
  constructor
  · obtain ⟨haccepts, hzone, hnames⟩ := ofRadius_named (.real 12.3) (.real 12.304)
    obtain ⟨z, hz⟩ := haccepts.2 (haccepted (by decide +kernel))
    obtain ⟨w, hw⟩ := (ofRadius_named (.real 12.304) (.real 12.3)).accepted_iff.2
      (haccepted (by decide +kernel))
    obtain ⟨hname, -, hdeclaration⟩ := hnames z w hz hw
    have hsame : z.name.text = w.name.text :=
      hname.2 (.inr ⟨by decide +kernel, by decide +kernel, by decide +kernel⟩)
    have hown := (hzone z hz).own (mt (hzone z hz).predefined_iff.1 (by decide +kernel))
    refine ⟨z, w, hz, hw, hsame, fun hcode => ?_⟩
    revert hcode
    rw [(hdeclaration hsame hown.1).2]
    decide +kernel
  · obtain ⟨haccepts, hzone, -⟩ := ofRadius_named (.real 10.001) (.real 10.001)
    obtain ⟨z, hz⟩ := haccepts.2 (haccepted (by decide +kernel))
    exact ⟨z, hz, (hzone z hz).predefined_iff.2 (.inr (by decide +kernel))⟩

end ZoneData

end SixAxis
