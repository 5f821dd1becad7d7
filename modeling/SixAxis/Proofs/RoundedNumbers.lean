import SixAxis.Proofs.CanonicalNumerals

/-!
# Rounded numbers

What is written of a finite double is its exact value, rounded to a number of decimals.  A number
half way between two decimals goes to the even one, on both sides of zero.  Since the text is the
canonical numeral of the rounded value, two doubles have the same text exactly if both count as the
marker of an unconnected axis, or neither does and both round to the same decimal.

* `roundedHalfEven` — the whole number nearest to a fraction, `Decimal.rounded` — the decimal;
* `Double.value` — the exact value of a double, from the sign, mantissa and exponent in its bits;
* `Decimal.Fixed.value_of_ofFloat?` — what is written of a double **is its value, rounded**;
* `CodeNumber.IsText` — what the text of a double is, `CodeNumber.text_isText`;
* `CodeNumber.text_canonical` — **the text of finite doubles, and when two have the same one**.
-/

namespace SixAxis

/-! ### Rounding to whole numbers -/

/-- The whole number nearest to a fraction, the even one of two that are as near. -/
def roundedHalfEven (q : ℚ) : ℤ :=
  let below := ⌊q⌋
  if q - below < 1 / 2 then below
  else if 1 / 2 < q - below then below + 1
  else below + below % 2

/-- No whole number is nearer to a fraction, and an odd one is not as near as another. -/
def IsNearest (q : ℚ) (n : ℤ) : Prop := |q - n| ≤ 1 / 2 ∧ (|q - n| = 1 / 2 → Even n)

theorem isNearest_roundedHalfEven (q : ℚ) : IsNearest q (roundedHalfEven q) := by
  have hlow := Int.floor_le q
  have hhigh := Int.lt_floor_add_one q
  simp only [roundedHalfEven]
  split
  · rename_i hless
    rw [IsNearest, abs_of_nonneg (by linarith)]
    exact ⟨hless.le, fun hhalf => absurd hhalf hless.ne⟩
  · rename_i hmost
    split
    · rename_i hmore
      have hgap : |q - ((⌊q⌋ + 1 : ℤ) : ℚ)| < 1 / 2 := by
        push_cast
        rw [abs_of_nonpos (by linarith)]
        linarith
      exact ⟨hgap.le, fun hhalf => absurd hhalf hgap.ne⟩
    · rename_i hleast
      -- Half way between two whole numbers; one of them is even.
      have hhalf : q - ⌊q⌋ = 1 / 2 := le_antisymm (not_lt.1 hleast) (not_lt.1 hmost)
      rcases Int.emod_two_eq_zero_or_one ⌊q⌋ with heven | hodd
      · rw [heven, add_zero, IsNearest, hhalf]
        exact ⟨by norm_num, fun _ => Int.even_iff.2 heven⟩
      · have hgap : |q - ((⌊q⌋ + 1 : ℤ) : ℚ)| = 1 / 2 := by
          push_cast
          rw [abs_of_nonpos (by linarith)]
          linarith
        rw [hodd, IsNearest, hgap]
        exact ⟨le_rfl, fun _ => Int.even_iff.2 (by omega)⟩

/-- Only one whole number is nearest. -/
theorem IsNearest.eq {q : ℚ} {m n : ℤ} (hm : IsNearest q m) (hn : IsNearest q n) : m = n := by
  by_contra hne
  wlog hless : m < n generalizing m n
  · exact this hn hm (Ne.symm hne) (by omega)
  have hm' := abs_le.1 hm.1
  have hn' := abs_le.1 hn.1
  have hclose : (n : ℚ) ≤ (m + 1 : ℤ) := by
    push_cast
    linarith
  have hnext : n ≤ m + 1 := by exact_mod_cast hclose
  obtain rfl : n = m + 1 := by omega
  -- The fraction is half way between the two, so that both are even.
  push_cast at hn'
  have hhalf : q - m = 1 / 2 := by linarith
  have hm_even := hm.2 (by rw [hhalf]; norm_num)
  have hn_even := hn.2 (by
    push_cast
    rw [show q - (m + 1) = -(1 / 2) by linarith]
    norm_num)
  rw [Int.even_iff] at hm_even hn_even
  omega

theorem roundedHalfEven_eq_iff {q : ℚ} {n : ℤ} : roundedHalfEven q = n ↔ IsNearest q n :=
  ⟨fun h => h ▸ isNearest_roundedHalfEven q, (isNearest_roundedHalfEven q).eq⟩

theorem IsNearest.neg {q : ℚ} {n : ℤ} (h : IsNearest q n) : IsNearest (-q) (-n) := by
  have hgap : |-q - ((-n : ℤ) : ℚ)| = |q - n| := by
    push_cast
    rw [← neg_add', abs_neg, ← sub_eq_add_neg]
  rw [IsNearest, hgap, even_neg]
  exact h

/-- Numbers on both sides of zero are rounded alike. -/
theorem roundedHalfEven_neg (q : ℚ) : roundedHalfEven (-q) = -roundedHalfEven q :=
  roundedHalfEven_eq_iff.2 (isNearest_roundedHalfEven q).neg

theorem roundedHalfEven_intCast (n : ℤ) : roundedHalfEven n = n :=
  roundedHalfEven_eq_iff.2 ⟨by norm_num, fun h => by norm_num at h⟩

namespace Decimal

/-- The quotient of whole numbers, rounded, is the fraction rounded. -/
theorem roundedHalfEven_div (num : ℕ) {den : ℕ} (hden : 0 < den) :
    roundedHalfEven (num / den) = roundedQuotient num den := by
  have hpos : (0 : ℚ) < den := by exact_mod_cast hden
  have hfloor : ⌊(num : ℚ) / den⌋ = (num / den : ℕ) := Rat.floor_natCast_div_natCast num den
  have hrest : (num : ℚ) / den - (num / den : ℕ) = (num % den : ℕ) / den := by
    rw [eq_div_iff hpos.ne', sub_mul, div_mul_cancel₀ _ hpos.ne', sub_eq_iff_eq_add, add_comm]
    exact_mod_cast (Nat.div_add_mod' num den).symm
  have hless : ((num % den : ℕ) : ℚ) / den < 1 / 2 ↔ 2 * (num % den) < den := by
    rw [div_lt_div_iff₀ hpos two_pos, one_mul, mul_comm]
    exact_mod_cast Iff.rfl
  have hmore : 1 / 2 < ((num % den : ℕ) : ℚ) / den ↔ den < 2 * (num % den) := by
    rw [div_lt_div_iff₀ two_pos hpos, one_mul, mul_comm]
    exact_mod_cast Iff.rfl
  simp only [roundedHalfEven, roundedQuotient, hfloor, Int.cast_natCast, hrest, hless, hmore]
  split_ifs <;> push_cast <;> rfl

/-- A number rounded to some decimals. -/
def rounded (q : ℚ) (decimals : ℕ) : ℚ := roundedHalfEven (q * 10 ^ decimals) / 10 ^ decimals

theorem rounded_neg (q : ℚ) (decimals : ℕ) : rounded (-q) decimals = -rounded q decimals := by
  rw [rounded, neg_mul, roundedHalfEven_neg, Int.cast_neg, neg_div, rounded]

end Decimal

/-! ### The value of a double -/

namespace Decimal.Binary

/-- The exact value of a double in parts. -/
def value (b : Binary) : ℚ := (if b.negative then -1 else 1) * b.mantissa * 2 ^ b.exponent

/-- The size of a double in parts, as a fraction. -/
theorem value_eq_fraction (b : Binary) :
    b.value = (if b.negative then -1 else 1) * (b.fraction.1 / b.fraction.2) := by
  rw [value, mul_assoc]
  congr 1
  rw [fraction]
  split
  · rename_i hnegative
    obtain ⟨k, hk⟩ := Int.eq_ofNat_of_zero_le (neg_nonneg.2 hnegative.le)
    rw [show b.exponent = -(k : ℤ) by omega, neg_neg, zpow_neg, zpow_natCast]
    simp [twoTo, div_eq_mul_inv]
  · rename_i hnonneg
    obtain ⟨k, hk⟩ := Int.eq_ofNat_of_zero_le (not_lt.1 hnonneg)
    rw [hk, zpow_natCast]
    simp [twoTo]

theorem fraction_pos (b : Binary) : 0 < b.fraction.2 := by
  rw [fraction]
  split
  · exact Nat.pow_pos (by decide)
  · exact Nat.one_pos

end Decimal.Binary

namespace Double

open Float.Model

/-- The exact value of a finite double. -/
def value (x : Float) : ℚ :=
  match x.toModel.unpack with
  | .finite s m e _ => s.apply m * 2 ^ e
  | _ => 0

variable {x : Float}

/-- The mantissa in the bits of a double. -/
theorem toNat_unpackMantissa :
    (@UnpackedFloat.unpackMantissa Format.binary64 x.toBits.toBitVec).toNat =
      x.toBits.toNat % Decimal.Binary.fractionSize := by
  simp [UnpackedFloat.unpackMantissa]
  rfl

/-- The mantissa with one more bit in front. -/
theorem toNat_fullMantissa :
    (1#1 ++ @UnpackedFloat.unpackMantissa Format.binary64 x.toBits.toBitVec).toNat =
      Decimal.Binary.fractionSize + x.toBits.toNat % Decimal.Binary.fractionSize := by
  rw [BitVec.toNat_append, ← Nat.shiftLeft_add_eq_or_of_lt (BitVec.isLt _), toNat_unpackMantissa]
  rfl

/-- The sign in the bits of a double. -/
theorem ofBitVec_unpackSign :
    UnpackedFloat.Sign.ofBitVec (@UnpackedFloat.unpackSign Format.binary64 x.toBits.toBitVec) =
      if Decimal.twoTo 63 ≤ x.toBits.toNat then .negative else .positive := by
  have hbits : x.toBits.toNat < 2 ^ 64 := x.toBits.toNat_lt
  have hfield : (@UnpackedFloat.unpackSign Format.binary64 x.toBits.toBitVec).toNat =
      x.toBits.toNat / 2 ^ 63 % 2 := by
    simp [UnpackedFloat.unpackSign, Nat.shiftRight_eq_div_pow]
  have hpositive : @UnpackedFloat.unpackSign Format.binary64 x.toBits.toBitVec = 0#1 ↔
      ¬ Decimal.twoTo 63 ≤ x.toBits.toNat := by
    rw [← BitVec.toNat_inj, hfield, show Decimal.twoTo 63 = 2 ^ 63 from rfl]
    simp only [BitVec.toNat_ofNat]
    omega
  rw [UnpackedFloat.Sign.ofBitVec]
  simp only [hpositive, ite_not]

/-- The number of a sign and a size. -/
theorem cast_apply (negative : Prop) [Decidable negative] (m : ℕ) :
    (((if negative then UnpackedFloat.Sign.negative else .positive).apply m : ℤ) : ℚ) =
      (if decide negative then -1 else 1) * m := by
  split_ifs with h <;> simp_all [UnpackedFloat.Sign.apply]

/-- The parts of a double that its exact value is made of are those in its bits. -/
theorem value_of_ofFloat? {b : Decimal.Binary} (h : Decimal.Binary.ofFloat? x = some b) :
    value x = b.value := by
  have hones := @unpackExponent_eq_iff x
  have hnone : @UnpackedFloat.unpackExponent Format.binary64 x.toBits.toBitVec = 0#11 ↔
      x.toBits.toNat / Decimal.Binary.fractionSize % 2048 = 0 := by
    rw [← BitVec.toNat_inj, toNat_unpackExponent]
    rfl
  rw [value, show x.toModel.unpack = UnpackedFloat.unpack Format.binary64 x.toBits.toBitVec from rfl,
    UnpackedFloat.unpack]
  rw [Decimal.Binary.ofFloat?] at h
  simp only [ofBitVec_unpackSign]
  -- Infinity and what is no number have no exact value; then zero and the numbers near it, whose
  -- exponent bits are zeros, and last the others, whose mantissa has one more bit in front.
  by_cases hinfinite : x.toBits.toNat / Decimal.Binary.fractionSize % 2048 = 2047
  · rw [if_pos hinfinite] at h
    cases h
  rw [if_neg hinfinite] at h
  rw [if_neg (mt hones.1 hinfinite)]
  by_cases hsmall : x.toBits.toNat / Decimal.Binary.fractionSize % 2048 = 0
  · rw [if_pos hsmall] at h
    rw [if_pos (hnone.2 hsmall)]
    cases h
    rw [Decimal.Binary.value, ← toNat_unpackMantissa]
    by_cases hzero : @UnpackedFloat.unpackMantissa Format.binary64 x.toBits.toBitVec = 0#52
    · rw [dif_pos hzero, hzero]
      simp
    · rw [dif_neg hzero]
      simp only [cast_apply, toNat_unpackExponent, hsmall]
      rfl
  · rw [if_neg hsmall] at h
    rw [if_neg (mt hnone.1 hsmall)]
    cases h
    have hmantissa := @toNat_fullMantissa x
    rw [Decimal.Binary.value]
    simp only [cast_apply, toNat_unpackExponent, hmantissa]
    rfl

end Double

/-- The exact value of a double, rounded, is what is written of it. -/
theorem Decimal.Fixed.value_of_ofFloat? {x : Float} {decimals : ℕ} {f : Decimal.Fixed}
    (h : Decimal.Fixed.ofFloat? x decimals = some f) :
    f.value = Decimal.rounded (Double.value x) decimals := by
  obtain ⟨b, hb, rfl⟩ := Option.map_eq_some_iff.1 h
  rw [Double.value_of_ofFloat? hb, Decimal.Binary.value_eq_fraction]
  have hsize : Decimal.rounded (b.fraction.1 / b.fraction.2) decimals =
      roundedQuotient (b.fraction.1 * tenTo decimals) b.fraction.2 / (tenTo decimals : ℕ) := by
    have hscaled := roundedHalfEven_div (b.fraction.1 * tenTo decimals) b.fraction_pos
    rw [Nat.cast_mul, cast_tenTo] at hscaled
    rw [rounded, div_mul_eq_mul_div, hscaled, Int.cast_natCast, cast_tenTo]
  rw [value]
  cases b.negative with
  | false =>
    rw [if_neg Bool.false_ne_true, if_neg Bool.false_ne_true, one_mul, hsize]
  | true =>
    rw [if_pos rfl, if_pos rfl, neg_one_mul, Decimal.rounded_neg, hsize]

/-! ### The text of a double -/

namespace CodeNumber

variable {x y : Float}

/-- What the text of a finite double is: the token of an unconnected axis, or the canonical numeral
of its value with limited decimals. -/
structure IsText (x : Float) (decimals : ℕ) (s : String) : Prop where
  token_iff : s = unconnectedToken ↔ isUnconnected x = true
  canonical : isUnconnected x = false → IsCanonicalNumeral s
  value : isUnconnected x = false → numeralValue s = Decimal.rounded (Double.value x) decimals

/-- A finite double has the text that it should have. -/
theorem text_isText (hx : x.isFinite = true) (decimals : ℕ) :
    IsText x decimals (text x decimals) := by
  by_cases hmarker : isUnconnected x = true
  · rw [text, if_pos hmarker]
    exact ⟨iff_of_true rfl hmarker, fun h => absurd hmarker (Bool.eq_false_iff.1 h),
      fun h => absurd hmarker (Bool.eq_false_iff.1 h)⟩
  · obtain ⟨b, hb⟩ := Option.isSome_iff_exists.1 (Double.isSome_ofFloat?.trans hx)
    obtain ⟨f, hf⟩ : ∃ f, Decimal.Fixed.ofFloat? x decimals = some f := by
      rw [Decimal.Fixed.ofFloat?, hb]
      exact ⟨_, rfl⟩
    have htext : text x decimals = f.trimmed := by rw [text, if_neg hmarker, hf]
    rw [htext]
    refine ⟨iff_of_false ?_ hmarker, fun _ => isCanonicalNumeral_trimmed f, fun _ => ?_⟩
    · intro htoken
      have hnumeral := isNumeral_trimmed f
      rw [htoken] at hnumeral
      revert hnumeral
      decide
    · rw [numeralValue_trimmed, Decimal.Fixed.value_of_ofFloat? hf]

/-- Texts are equal exactly if they are the token, or numerals of the same number. -/
theorem IsText.eq_iff {decimals decimals' : ℕ} {s t : String} (hs : IsText x decimals s)
    (ht : IsText y decimals' t) : s = t ↔
      (isUnconnected x = true ∧ isUnconnected y = true) ∨
      (isUnconnected x = false ∧ isUnconnected y = false ∧
        Decimal.rounded (Double.value x) decimals = Decimal.rounded (Double.value y) decimals') := by
  constructor
  · rintro rfl
    by_cases hx : isUnconnected x = true
    · exact .inl ⟨hx, ht.token_iff.1 (hs.token_iff.2 hx)⟩
    · have hy : isUnconnected y ≠ true := fun hy => hx (hs.token_iff.1 (ht.token_iff.2 hy))
      rw [← Bool.eq_false_iff] at hy
      rw [Bool.not_eq_true] at hx
      exact .inr ⟨hx, hy, (hs.value hx).symm.trans (ht.value hy)⟩
  · rintro (⟨hx, hy⟩ | ⟨hx, hy, hrounded⟩)
    · rw [hs.token_iff.2 hx, ht.token_iff.2 hy]
    · refine (hs.canonical hx).eq_of_value_eq (ht.canonical hy) ?_
      rw [hs.value hx, ht.value hy, hrounded]

/-! ### Decimals that are asked for -/

/-- The exponent of a double in parts is not below the least one. -/
theorem leastExponent_le {b : Decimal.Binary} (h : Decimal.Binary.ofFloat? x = some b) :
    Decimal.Binary.leastExponent ≤ b.exponent := by
  rw [Decimal.Binary.ofFloat?] at h
  split_ifs at h with hinfinite hsmall
  · cases h
    exact le_rfl
  · cases h
    show (-1074 : ℤ) ≤ _ - 1075
    omega

/-- Where a double can have no more decimals, rounding leaves it as it is. -/
theorem rounded_value (hx : x.isFinite = true) {decimals : ℕ} (hmost : mostDecimals ≤ decimals) :
    Decimal.rounded (Double.value x) decimals = Double.value x := by
  obtain ⟨b, hb⟩ := Option.isSome_iff_exists.1 (Double.isSome_ofFloat?.trans hx)
  obtain ⟨k, hk⟩ : ∃ k : ℕ, b.exponent + decimals = k := by
    have hleast := leastExponent_le hb
    rw [Decimal.Binary.leastExponent] at hleast
    rw [mostDecimals] at hmost
    exact ⟨(b.exponent + decimals).toNat, by omega⟩
  -- In units of the last decimal the double is a whole number.
  have hten : (10 : ℚ) ^ decimals ≠ 0 := by positivity
  have hpower : (2 : ℚ) ^ b.exponent * 10 ^ decimals = 2 ^ k * 5 ^ decimals := by
    rw [show (10 : ℚ) = 2 * 5 by norm_num, mul_pow, ← mul_assoc, ← zpow_natCast 2 decimals,
      ← zpow_add₀ two_ne_zero, hk, zpow_natCast]
  have hwhole : Double.value x * 10 ^ decimals =
      (((if b.negative then -1 else 1) * b.mantissa * (2 ^ k * 5 ^ decimals) : ℤ) : ℚ) := by
    rw [Double.value_of_ofFloat? hb, Decimal.Binary.value, mul_assoc, hpower]
    push_cast
    rfl
  rw [Decimal.rounded, div_eq_iff hten, hwhole, roundedHalfEven_intCast]

/-- More decimals than a double can have make no difference to its text. -/
theorem text_mostDecimals (hx : x.isFinite = true) {decimals : ℕ}
    (hmost : mostDecimals ≤ decimals) : text x mostDecimals = text x decimals := by
  refine ((text_isText hx mostDecimals).eq_iff (text_isText hx decimals)).2 ?_
  rw [rounded_value hx le_rfl, rounded_value hx hmost]
  cases isUnconnected x with
  | true => exact .inl ⟨rfl, rfl⟩
  | false => exact .inr ⟨rfl, rfl, rfl⟩

/-- The text with decimals that are asked for is the one with all of them. -/
theorem asked_whole (hx : x.isFinite = true) {decimals : ℕ} (hdecimals : decimals ≤ mostAsked) :
    asked (.number (.whole decimals)) x = .ok (text x decimals) := by
  have htext : text x (min decimals mostDecimals) = text x decimals := by
    rcases le_total decimals mostDecimals with hfew | hmany
    · rw [min_eq_left hfew]
    · rw [min_eq_right hmany, text_mostDecimals hx hmany]
  have hasked : decimals? (.number (.whole decimals)) = some (min decimals mostDecimals) := by
    have hnonneg : ¬ (decimals : ℤ) < 0 := by omega
    simp only [decimals?, if_neg hnonneg, Int.toNat_natCast, Option.filter_some, hdecimals,
      decide_true, if_true, Option.map_some]
  rw [asked, hasked]
  by_cases hmarker : isUnconnected x = true
  · rw [if_pos hmarker, text, if_pos hmarker]
  · rw [if_neg hmarker]
    exact congrArg Except.ok htext

/-- **The text of finite doubles** is the token of an unconnected axis or the canonical numeral of
their rounded value, and two of them have the same text exactly if they are both the marker, or both
are not and round to the same decimal. -/
theorem text_canonical (hx : x.isFinite = true) (hy : y.isFinite = true) (decimals : ℕ) :
    IsText x decimals (text x decimals) ∧
    (text x decimals = text y decimals ↔
      (isUnconnected x = true ∧ isUnconnected y = true) ∨
      (isUnconnected x = false ∧ isUnconnected y = false ∧
        Decimal.rounded (Double.value x) decimals = Decimal.rounded (Double.value y) decimals)) ∧
    (decimals ≤ mostAsked → asked (.number (.whole decimals)) x = .ok (text x decimals)) :=
  ⟨text_isText hx decimals, (text_isText hx decimals).eq_iff (text_isText hy decimals),
    asked_whole hx⟩

/-- An eighth is half way between two decimals and goes to the even one, which a number below it
goes to as well. -/
theorem text_canonical_eighth :
    text 0.125 2 = text 0.1249 2 ∧ asked (.number (.whole 2)) 0.125 = .ok (text 0.125 2) ∧
      numeralValue (text 0.125 2) = 12 / 100 := by
  have hfinite : (0.125 : Float).isFinite = true := by decide +kernel
  have hbelow : (0.1249 : Float).isFinite = true := by decide +kernel
  have heighth : isUnconnected (0.125 : Float) = false := by decide +kernel
  have hmarker : isUnconnected (0.1249 : Float) = false := by decide +kernel
  obtain ⟨htext, hsame, hasked⟩ := text_canonical hfinite hbelow 2
  have hrounded : Decimal.rounded (Double.value 0.125) 2 = 12 / 100 := by
    decide +kernel
  refine ⟨hsame.2 (.inr ⟨heighth, hmarker, ?_⟩), hasked (by decide), ?_⟩
  · decide +kernel
  · rw [htext.value heighth, hrounded]

end CodeNumber

end SixAxis
