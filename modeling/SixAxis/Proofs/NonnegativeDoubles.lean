import SixAxis.Proofs.RoundedNumbers

/-!
# Doubles that are not below zero

A radius, a speed or a duration is checked by comparing it with zero.  What passes is zero of either
sign, a positive number, infinity, or what is no number.  None of these is written with a sign, and
a positive multiple of them passes as well, however it is rounded.

* `Double.isNegative` — whether a double is below zero, `lt_zero_iff` — by its parts;
* `isNegative_mul` — **positive multiples** of what is not below zero are not below zero;
* `Number.isNegative_value` — the double nearest to a number that is not below zero is not either;
* `CodeNumber.isAlphanum_of_mem_text` — **what is written of it is a name**, but for the point.
-/

namespace SixAxis

namespace Double

open Float.Model

variable {x : Float}

/-- The sign of a double in parts; that of what is no number is positive. -/
def signOf : UnpackedFloat → UnpackedFloat.Sign
  | .infinity s | .zero s | .finite s _ _ _ => s
  | .notANumber => .positive

/-- Whether a double in parts is below zero. -/
def isBelowZero : UnpackedFloat → Bool
  | .infinity .negative | .finite .negative _ _ _ => true
  | _ => false

/-- Whether a double is below zero. -/
def isNegative (x : Float) : Bool := isBelowZero x.toModel.unpack

theorem isBelowZero_of_signOf {f : UnpackedFloat} (h : signOf f = .positive) :
    isBelowZero f = false := by
  cases f with
  | infinity s =>
    cases s with
    | negative => cases h
    | positive => rfl
  | finite s =>
    cases s with
    | negative => cases h
    | positive => rfl
  | _ => rfl

/-! ### The sign bit -/

theorem signOf_unpack (b : BitVec Format.binary64.numBits)
    (h : UnpackedFloat.unpackSign b = 0#1) :
    signOf (UnpackedFloat.unpack Format.binary64 b) = .positive := by
  have hsign : UnpackedFloat.Sign.ofBitVec (UnpackedFloat.unpackSign b) = .positive := by
    rw [h]
    rfl
  rw [UnpackedFloat.unpack]
  simp only [hsign]
  split
  · split <;> rfl
  · split
    · split <;> rfl
    · rfl

theorem unpackSign_packComponents (exponent : BitVec 11) (mantissa : BitVec 52) :
    @UnpackedFloat.unpackSign Format.binary64
      (UnpackedFloat.packComponents Format.binary64 .positive exponent mantissa) = 0#1 := by
  simp only [UnpackedFloat.unpackSign, UnpackedFloat.packComponents, BitVec.extractLsb]
  rw [BitVec.extractLsb'_append_eq_of_le (by omega), BitVec.extractLsb'_append_eq_of_le (by omega)]
  rfl

theorem unpackSign_pack {f : UnpackedFloat} (h : signOf f = .positive) :
    UnpackedFloat.unpackSign (UnpackedFloat.pack Format.binary64 f) = 0#1 := by
  cases f with
  | notANumber => exact unpackSign_packComponents _ _
  | infinity s =>
    cases h
    exact unpackSign_packComponents _ _
  | zero s =>
    cases h
    exact unpackSign_packComponents _ _
  | finite s m e hm =>
    cases h
    rw [UnpackedFloat.pack]
    simp only
    split
    · exact unpackSign_packComponents _ _
    · split <;> exact unpackSign_packComponents _ _

/-- What is packed with a positive sign is not below zero. -/
theorem isBelowZero_pack {f : UnpackedFloat} (h : signOf f = .positive) :
    isBelowZero (Float.Model.pack f).unpack = false :=
  isBelowZero_of_signOf (signOf_unpack _ (unpackSign_pack h))

/-- A double whose sign bit is clear is not below zero. -/
theorem isNegative_ofBits {bits : UInt64} (h : bits.toNat < 2 ^ 63) :
    isNegative (Float.ofBits bits) = false := by
  have hclear : @UnpackedFloat.unpackSign Format.binary64 bits.toBitVec = 0#1 := by
    rw [← BitVec.toNat_inj]
    simp [UnpackedFloat.unpackSign, Nat.shiftRight_eq_div_pow]
    omega
  exact isBelowZero_pack (signOf_unpack _ hclear)

/-! ### Products -/

/-- A positive multiple of what is not below zero is not below zero. -/
theorem isNegative_mul {c : Float} {m : ℕ} {e : ℤ} {hm : 0 < m}
    (hc : c.toModel.unpack = .finite .positive m e hm) (hx : isNegative x = false) :
    isNegative (c * x) = false := by
  show isBelowZero (Float.Model.pack (UnpackedFloat.mul Format.binary64 c.toModel.unpack
    x.toModel.unpack)).unpack = false
  rw [isNegative] at hx
  rw [hc]
  revert hx
  cases x.toModel.unpack with
  | notANumber => exact fun _ => isBelowZero_pack rfl
  | infinity s =>
    cases s with
    | negative => exact nofun
    | positive => exact fun _ => isBelowZero_pack rfl
  | zero s =>
    cases s with
    | negative =>
      intro _
      show isBelowZero (Float.Model.pack (.zero .negative)).unpack = false
      decide
    | positive => exact fun _ => isBelowZero_pack rfl
  | finite s =>
    cases s with
    | negative => exact nofun
    | positive =>
      intro _
      refine isBelowZero_pack ?_
      simp only [UnpackedFloat.mul, UnpackedFloat.roundWithAccuracy]
      split <;> rfl

/-! ### Comparison with zero -/

/-- A finite double is below zero if its value is. -/
theorem isNegative_iff_value (hx : x.isFinite = true) : isNegative x = true ↔ value x < 0 := by
  replace hx : x.toModel.unpack.isFinite = true := hx
  rw [isNegative, value]
  revert hx
  cases x.toModel.unpack with
  | finite s m e hm =>
    intro _
    have hsize : (0 : ℚ) < m * 2 ^ e := by positivity
    cases s with
    | negative =>
      refine iff_of_true rfl ?_
      simp only [UnpackedFloat.Sign.apply, Int.cast_neg, Int.cast_natCast, neg_mul]
      linarith
    | positive =>
      refine iff_of_false Bool.false_ne_true ?_
      simp only [UnpackedFloat.Sign.apply, Int.cast_natCast]
      linarith
  | zero s =>
    intro _
    cases s <;> exact iff_of_false Bool.false_ne_true (lt_irrefl 0)
  | _ =>
    intro hfinite
    cases hfinite

/-- A double is less than the whole number zero if it is below zero. -/
theorem lt_zero_iff : (Numeral.real x : Number) < .whole 0 ↔ isNegative x = true := by
  have hzero : (0.0 : Float).toModel.unpack = .zero .positive := by rfl
  show Decimal.compareWhole? x 0 = some .lt ↔ _
  rw [Decimal.compareWhole?]
  cases hb : Decimal.Binary.ofFloat? x with
  | some b =>
    have hfinite : x.isFinite = true := by
      rw [← isSome_ofFloat?, hb]
      rfl
    have hden : (0 : ℚ) < b.fraction.2 := by exact_mod_cast b.fraction_pos
    rw [isNegative_iff_value hfinite, value_of_ofFloat? hb, b.value_eq_fraction]
    simp only [Option.some_inj, zero_mul, Int.compare_eq_lt, Decimal.Binary.signedFraction]
    cases b.negative with
    | false =>
      rw [if_neg Bool.false_ne_true, if_neg Bool.false_ne_true, one_mul]
      exact iff_of_false (by omega) (by positivity : (0 : ℚ) ≤ b.fraction.1 / b.fraction.2).not_gt
    | true =>
      rw [if_pos rfl, if_pos rfl, neg_one_mul, neg_lt_zero, neg_lt_zero, div_pos_iff_of_pos_right hden,
        Int.natCast_pos, Nat.cast_pos]
  | none =>
    have hinfinite : x.isFinite = false := by
      rw [← isSome_ofFloat?, hb]
      rfl
    simp only [lt_iff, hzero]
    replace hinfinite : x.toModel.unpack.isFinite = false := hinfinite
    show (if x.toModel.unpack.isNaN = true then none else _) = _ ↔ _
    rw [isNegative]
    revert hinfinite
    cases x.toModel.unpack with
    | notANumber => exact fun _ => iff_of_false (by decide) Bool.false_ne_true
    | infinity s =>
      intro _
      cases s with
      | negative => exact iff_of_true rfl rfl
      | positive => exact iff_of_false (by decide) Bool.false_ne_true
    | _ =>
      intro hfinite
      cases hfinite

theorem isNegative_of_lt (h : x < 0.0) : isNegative x = true := by
  have hzero : (0.0 : Float).toModel.unpack = .zero .positive := by rfl
  rw [lt_iff, hzero] at h
  rw [isNegative]
  revert h
  cases x.toModel.unpack with
  | notANumber => exact nofun
  | zero s => cases s <;> exact nofun
  | infinity s =>
    cases s with
    | negative => exact fun _ => rfl
    | positive => exact nofun
  | finite s =>
    cases s with
    | negative => exact fun _ => rfl
    | positive => exact nofun

end Double

/-! ### Numbers that are not below zero -/

/-- The double nearest to a number that is not below zero is not below zero. -/
theorem Number.isNegative_value {n : Number} (h : ¬ n < .whole 0) :
    Double.isNegative n.value = false := by
  cases n with
  | real x => exact Bool.eq_false_iff.2 (mt Double.lt_zero_iff.2 h)
  | truth b => cases b <;> decide +kernel
  | whole k =>
    have hk : 0 ≤ k := by
      by_contra hbelow
      exact h (congrArg some (Int.compare_eq_lt.2 (by omega)))
    have hsign : decide (k < 0) = false := decide_eq_false (by omega)
    show Double.isNegative (Decimal.Binary.nearest (decide (k < 0)) k.natAbs 1) = false
    rw [hsign, Decimal.Binary.nearest]
    refine Double.isNegative_ofBits ?_
    have hlarge : 2047 * Decimal.Binary.fractionSize < 2 ^ 63 := by decide
    rw [if_neg Bool.false_ne_true, UInt64.toNat_ofNat']
    refine (Nat.mod_le _ _).trans_lt ?_
    split
    · exact Nat.pow_pos (by decide)
    · exact (min_le_right _ _).trans_lt hlarge

/-! ### What is written of them -/

theorem roundedHalfEven_nonneg {q : ℚ} (hq : 0 ≤ q) : 0 ≤ roundedHalfEven q := by
  have hnear := (abs_le.1 (isNearest_roundedHalfEven q).1).2
  have hcast : ((-1 : ℤ) : ℚ) < roundedHalfEven q := by
    push_cast
    linarith
  have habove : -1 < roundedHalfEven q := by exact_mod_cast hcast
  omega

theorem Decimal.rounded_nonneg {q : ℚ} (hq : 0 ≤ q) (decimals : ℕ) : 0 ≤ rounded q decimals := by
  have hscaled : 0 ≤ roundedHalfEven (q * 10 ^ decimals) := roundedHalfEven_nonneg (by positivity)
  exact div_nonneg (by exact_mod_cast hscaled) (by positivity)

/-- A canonical numeral of a number that is not below zero is digits and at most a point. -/
theorem IsCanonicalNumeral.isDigit_of_mem {s : String} (h : IsCanonicalNumeral s)
    (hvalue : 0 ≤ numeralValue s) {c : Char} (hc : c ∈ s.toList) : c = '.' ∨ c.isDigit = true := by
  obtain ⟨p, hp, rfl⟩ := NumeralParts.exists_text_eq h.numeral
  rw [numeralValue, NumeralParts.ofText_text hp] at hvalue
  have hpositive : ¬ p.negative = true := mt (h.negative_iff hp).1 hvalue.not_gt
  have hwhole := hp.whole
  rw [isDigits, Bool.and_eq_true] at hwhole
  rw [NumeralParts.text, if_neg hpositive, String.toList_ofList, List.nil_append,
    List.mem_append] at hc
  rcases hc with hc | hc
  · exact .inr (List.all_eq_true.1 hwhole.2 c hc)
  · split at hc
    · cases hc
    · rcases List.mem_cons.1 hc with rfl | hc
      · exact .inl rfl
      · exact .inr (List.all_eq_true.1 hp.decimals c hc)

namespace CodeNumber

variable {x : Float}

/-- **What is written of a double that is not below zero** is letters and digits, and at most a
point. -/
theorem isAlphanum_of_mem_text (hx : Double.isNegative x = false) (decimals : ℕ) {c : Char}
    (hc : c ∈ (text x decimals).toList) : c = '.' ∨ c.isAlphanum = true := by
  cases hfinite : x.isFinite with
  | false =>
    have hnonneg : ¬ x < 0.0 := mt Double.isNegative_of_lt (Bool.eq_false_iff.1 hx)
    rw [text_of_not_isFinite hfinite, if_neg hnonneg] at hc
    have hnan : "nan".toList.all Char.isAlphanum = true := by decide
    have hinf : "inf".toList.all Char.isAlphanum = true := by decide
    split at hc
    · exact .inr (List.all_eq_true.1 hnan c hc)
    · exact .inr (List.all_eq_true.1 hinf c hc)
  | true =>
    have htext := text_isText hfinite decimals
    by_cases hmarker : isUnconnected x = true
    · rw [htext.token_iff.2 hmarker] at hc
      have htoken : unconnectedToken.toList.all Char.isAlphanum = true := by decide
      exact .inr (List.all_eq_true.1 htoken c hc)
    · rw [Bool.not_eq_true] at hmarker
      have hvalue : 0 ≤ numeralValue (text x decimals) := by
        rw [htext.value hmarker]
        refine Decimal.rounded_nonneg (not_lt.1 ?_) decimals
        exact mt (Double.isNegative_iff_value hfinite).2 (Bool.eq_false_iff.1 hx)
      rcases (htext.canonical hmarker).isDigit_of_mem hvalue hc with hpoint | hdigit
      · exact .inl hpoint
      · exact .inr (by rw [Char.isAlphanum, hdigit, Bool.or_true])

end CodeNumber

end SixAxis
