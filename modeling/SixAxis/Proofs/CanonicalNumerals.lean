import SixAxis.Proofs.WrittenNumerals

/-!
# Canonical numerals

A numeral stands for a number: digits in base ten, with a sign in front or not, and with a point and
decimals behind or not.  Many numerals stand for one number, such as `-0`, `0`, `00` and `0.50`
beside `0.5`; one of them is canonical, and that is the one that a number with limited decimals is
written as.

* `digitsValue`, `decimalsValue` — what digits stand for in front of a point and behind it;
* `NumeralParts` — a numeral taken apart, `numeralValue` — the number that it stands for;
* `IsCanonicalNumeral` — no zero at the end of the decimals, no bare point, no sign on zero, and all
  digits of the whole part;
* `IsCanonicalNumeral.eq_of_value_eq` — **canonical numerals of one number are equal**;
* `isCanonicalNumeral_trimmed`, `numeralValue_trimmed` — **a number with limited decimals is written
  as its canonical numeral**.
-/

namespace SixAxis

/-! ### Digits -/

/-- The number that digits stand for. -/
def digitsValue (cs : List Char) : ℕ := Nat.ofDigitChars 10 cs 0

theorem digitsValue_cons (c : Char) (cs : List Char) :
    digitsValue (c :: cs) = 10 ^ cs.length * (c.toNat - '0'.toNat) + digitsValue cs := by
  rw [digitsValue, Nat.ofDigitChars_cons, Nat.mul_zero, Nat.zero_add,
    Nat.ofDigitChars_eq_ofDigitChars_zero, digitsValue]

theorem digitsValue_append_zeros (cs : List Char) (k : ℕ) :
    digitsValue (cs ++ List.replicate k '0') = 10 ^ k * digitsValue cs := by
  rw [digitsValue, Nat.ofDigitChars_append, Nat.ofDigitChars_replicate_zero, digitsValue]

theorem digitsValue_zeros_append (cs : List Char) (k : ℕ) :
    digitsValue (List.replicate k '0' ++ cs) = digitsValue cs := by
  rw [digitsValue, Nat.ofDigitChars_append, Nat.ofDigitChars_replicate_zero, Nat.mul_zero,
    digitsValue]

theorem digitsValue_digitsOf (n : ℕ) : digitsValue (Decimal.digitsOf n) = n :=
  Nat.ofDigitChars_toDigits (by decide) (by decide)

/-- A digit is less than ten, and told from others by what it stands for. -/
theorem toNat_of_isDigit {c : Char} (h : c.isDigit = true) :
    c.toNat = '0'.toNat + (c.toNat - '0'.toNat) ∧ c.toNat - '0'.toNat < 10 := by
  obtain ⟨hlow, hhigh⟩ := Char.isDigit_iff_toNat.1 h
  have hnine : '9'.toNat = '0'.toNat + 9 := by decide
  omega

theorem digitsValue_lt {cs : List Char} (h : cs.all Char.isDigit = true) :
    digitsValue cs < 10 ^ cs.length := by
  induction cs with
  | nil => exact Nat.one_pos
  | cons c cs ih =>
    rw [List.all_cons, Bool.and_eq_true] at h
    have hc := (toNat_of_isDigit h.1).2
    have hcs := ih h.2
    rw [digitsValue_cons, List.length_cons, pow_succ]
    have hmul : 10 ^ cs.length * (c.toNat - '0'.toNat) ≤ 10 ^ cs.length * 9 :=
      Nat.mul_le_mul_left _ (by omega)
    omega

/-- Digits of one length that stand for the same number are the same. -/
theorem eq_of_digitsValue_eq {cs ds : List Char} (hcs : cs.all Char.isDigit = true)
    (hds : ds.all Char.isDigit = true) (hlength : cs.length = ds.length)
    (h : digitsValue cs = digitsValue ds) : cs = ds := by
  induction cs generalizing ds with
  | nil => exact (List.length_eq_zero_iff.1 hlength.symm).symm
  | cons c cs ih =>
    cases ds with
    | nil => cases hlength
    | cons d ds =>
      rw [List.all_cons, Bool.and_eq_true] at hcs hds
      rw [List.length_cons, List.length_cons, Nat.succ_inj] at hlength
      -- The first digit is the quotient by a power of ten, and the others are the remainder.
      have hpos : 0 < 10 ^ ds.length := Nat.pow_pos (by decide)
      have hlow := digitsValue_lt hcs.2
      have hlow' := digitsValue_lt hds.2
      rw [digitsValue_cons, digitsValue_cons, hlength] at h
      rw [hlength] at hlow
      have hdigit : c.toNat - '0'.toNat = d.toNat - '0'.toNat := by
        have hquotient := congrArg (· / 10 ^ ds.length) h
        simpa only [Nat.mul_add_div hpos, Nat.div_eq_of_lt hlow, Nat.div_eq_of_lt hlow',
          Nat.add_zero] using hquotient
      have hrest : digitsValue cs = digitsValue ds := by
        rw [hdigit] at h
        exact Nat.add_left_cancel h
      have hc := (toNat_of_isDigit hcs.1).1
      have hd := (toNat_of_isDigit hds.1).1
      rw [ih hcs.2 hds.2 hlength hrest, Char.toNat_inj.1 (show c.toNat = d.toNat by omega)]

/-! ### Decimals -/

/-- The part of one that decimals stand for. -/
def decimalsValue (cs : List Char) : ℚ := digitsValue cs / 10 ^ cs.length

theorem decimalsValue_nonneg (cs : List Char) : 0 ≤ decimalsValue cs := by
  rw [decimalsValue]
  positivity

theorem decimalsValue_lt_one {cs : List Char} (h : cs.all Char.isDigit = true) :
    decimalsValue cs < 1 := by
  rw [decimalsValue, div_lt_one (by positivity)]
  exact_mod_cast digitsValue_lt h

theorem decimalsValue_append_zeros (cs : List Char) (k : ℕ) :
    decimalsValue (cs ++ List.replicate k '0') = decimalsValue cs := by
  rw [decimalsValue, decimalsValue, digitsValue_append_zeros, List.length_append,
    List.length_replicate]
  push_cast
  field_simp
  ring

/-- Decimals with no zero at the end that stand for the same part of one are the same. -/
theorem eq_of_decimalsValue_eq {cs ds : List Char} (hcs : cs.all Char.isDigit = true)
    (hds : ds.all Char.isDigit = true) (hlast : cs.getLast? ≠ some '0')
    (hlast' : ds.getLast? ≠ some '0') (h : decimalsValue cs = decimalsValue ds) : cs = ds := by
  wlog hlength : cs.length ≤ ds.length generalizing cs ds
  · exact (this hds hcs hlast' hlast h.symm (Nat.le_of_not_le hlength)).symm
  -- With zeros behind it the shorter one is the longer one; but that has no zero at the end.
  obtain ⟨k, hk⟩ := Nat.exists_eq_add_of_le hlength
  have hpadded : cs ++ List.replicate k '0' = ds := by
    have hfill : (cs ++ List.replicate k '0').length = ds.length := by
      rw [List.length_append, List.length_replicate, hk]
    have hall : (cs ++ List.replicate k '0').all Char.isDigit = true := by
      rw [List.all_append, hcs, List.all_replicate]
      simp
    refine eq_of_digitsValue_eq hall hds hfill ?_
    rw [← decimalsValue_append_zeros cs k, decimalsValue, decimalsValue, hfill,
      div_left_inj' (by positivity)] at h
    exact_mod_cast h
  cases k with
  | zero => rwa [List.replicate_zero, List.append_nil] at hpadded
  | succ k =>
    rw [List.replicate_succ', ← List.append_assoc] at hpadded
    rw [← hpadded, List.getLast?_concat] at hlast'
    exact absurd rfl hlast'

/-! ### Numerals -/

/-- A numeral taken apart: its sign, the digits in front of the point and those behind it. -/
structure NumeralParts where
  negative : Bool
  whole : List Char
  decimals : List Char

namespace NumeralParts

/-- The parts of a numeral. -/
def ofText (s : String) : NumeralParts :=
  let (negative, cs) := Decimal.signOf s.toList
  ⟨negative, cs.takeWhile (· != '.'), (cs.dropWhile (· != '.')).tail⟩

/-- The numeral of some parts. -/
def text (p : NumeralParts) : String :=
  String.ofList ((if p.negative then ['-'] else []) ++ p.whole ++
    if p.decimals.isEmpty then [] else '.' :: p.decimals)

/-- The size of the number that some parts stand for. -/
def magnitude (p : NumeralParts) : ℚ := digitsValue p.whole + decimalsValue p.decimals

/-- The number that some parts stand for. -/
def value (p : NumeralParts) : ℚ := if p.negative then -p.magnitude else p.magnitude

/-- Digits in front of the point, one at least, and behind it. -/
structure AreDigits (p : NumeralParts) : Prop where
  whole : isDigits p.whole = true
  decimals : p.decimals.all Char.isDigit = true

variable {p : NumeralParts}

/-- Digits have no sign in front of them. -/
theorem signOf_of_isDigits {cs : List Char} (h : isDigits cs = true) (rest : List Char) :
    Decimal.signOf (cs ++ rest) = (false, cs ++ rest) := by
  cases cs with
  | nil => cases h
  | cons c cs =>
    rw [List.cons_append, Decimal.signOf]
    · rintro _ heq
      rw [(List.cons.inj heq).1] at h
      cases h
    · rintro _ heq
      rw [(List.cons.inj heq).1] at h
      cases h

/-- Parts are found again in their numeral. -/
theorem ofText_text (h : p.AreDigits) : ofText p.text = p := by
  obtain ⟨negative, whole, decimals⟩ := p
  obtain ⟨hwhole, -⟩ := h
  simp only at hwhole
  have hsign (rest : List Char) :
      Decimal.signOf ((if negative then ['-'] else []) ++ whole ++ rest) =
        (negative, whole ++ rest) := by
    cases negative with
    | true => rfl
    | false => exact signOf_of_isDigits hwhole rest
  have hbefore : ∀ c ∈ whole, (c != '.') = true := by
    intro c hc
    rw [bne_iff_ne]
    rintro rfl
    exact notMem_of_isDigits hwhole (by decide) hc
  rw [ofText, text, String.toList_ofList, hsign]
  simp only [List.takeWhile_append_of_pos hbefore, List.dropWhile_append_of_pos hbefore]
  cases decimals with
  | nil => simp
  | cons d decimals => simp

/-- Every numeral has parts. -/
theorem exists_text_eq {s : String} (h : isNumeral s = true) : ∃ p, AreDigits p ∧ p.text = s := by
  have hunsigned {cs : List Char} (hcs : isUnsigned cs = true) (negative : Bool) :
      ∃ p, AreDigits p ∧ p.text = String.ofList ((if negative then ['-'] else []) ++ cs) := by
    have hjoin : ['.'].intercalate (cs.splitOn '.') = cs := List.intercalate_splitOn '.'
    rw [isUnsigned] at hcs
    split at hcs
    · rename_i whole hsplit
      rw [hsplit, List.intercalate_singleton] at hjoin
      refine ⟨⟨negative, whole, []⟩, ⟨hcs, rfl⟩, ?_⟩
      rw [text, ← hjoin]
      simp
    · rename_i whole behind hsplit
      rw [Bool.and_eq_true] at hcs
      rw [hsplit, List.intercalate_cons_cons, List.intercalate_singleton] at hjoin
      have hfull : behind.isEmpty = false := by
        cases behind with
        | nil => cases hcs.2
        | cons c behind => rfl
      have hall : behind.all Char.isDigit = true := by
        have hdigits := hcs.2
        rw [isDigits, Bool.and_eq_true] at hdigits
        exact hdigits.2
      refine ⟨⟨negative, whole, behind⟩, ⟨hcs.1, hall⟩, ?_⟩
      rw [text, ← hjoin]
      simp only [hfull, Bool.false_eq_true, if_false, List.append_assoc, List.singleton_append]
    · cases hcs
  rw [isNumeral] at h
  split at h
  · rename_i rest hs
    obtain ⟨p, hp, htext⟩ := hunsigned h true
    refine ⟨p, hp, htext.trans ?_⟩
    rw [← String.toList_inj, String.toList_ofList, hs]
    rfl
  · obtain ⟨p, hp, htext⟩ := hunsigned h false
    refine ⟨p, hp, htext.trans ?_⟩
    rw [← String.toList_inj, String.toList_ofList]
    rfl

/-- A numeral has a sign in front of it only if its parts have. -/
theorem negative_of_head?_text (h : p.AreDigits) (hsign : p.text.toList.head? = some '-') :
    p.negative = true := by
  obtain ⟨negative, whole, decimals⟩ := p
  cases negative with
  | true => rfl
  | false =>
    cases whole with
    | nil => cases h.whole
    | cons c whole =>
      rw [text, String.toList_ofList] at hsign
      obtain rfl : c = '-' := Option.some.inj hsign
      exact absurd List.mem_cons_self (notMem_of_isDigits h.whole (by decide))

/-- A numeral has a digit at its end. -/
theorem getLast?_text (h : p.AreDigits) : p.text.toList.getLast? ≠ some '.' := by
  intro hpoint
  rw [text, String.toList_ofList, List.getLast?_append] at hpoint
  by_cases hnone : p.decimals = []
  · rw [hnone, List.isEmpty_nil, if_pos rfl, List.getLast?_nil, Option.none_or,
      List.getLast?_append] at hpoint
    cases hlast : p.whole.getLast? with
    | none =>
      have hdigits := h.whole
      rw [List.getLast?_eq_none_iff.1 hlast] at hdigits
      cases hdigits
    | some c =>
      rw [hlast, Option.some_or] at hpoint
      rw [hpoint] at hlast
      exact notMem_of_isDigits h.whole (by decide) (List.mem_of_getLast? hlast)
  · rw [if_neg (mt List.isEmpty_iff.1 hnone), List.getLast?_cons] at hpoint
    cases hlast : p.decimals.getLast? with
    | none => exact hnone (List.getLast?_eq_none_iff.1 hlast)
    | some c =>
      rw [hlast] at hpoint
      obtain rfl : c = '.' := Option.some.inj hpoint
      cases List.all_eq_true.1 h.decimals _ (List.mem_of_getLast? hlast)

theorem magnitude_nonneg (p : NumeralParts) : 0 ≤ p.magnitude :=
  add_nonneg (Nat.cast_nonneg _) (decimalsValue_nonneg _)

theorem abs_value (p : NumeralParts) : |p.value| = p.magnitude := by
  rw [value]
  split
  · rw [abs_neg, abs_of_nonneg p.magnitude_nonneg]
  · exact abs_of_nonneg p.magnitude_nonneg

theorem floor_magnitude (h : p.AreDigits) : ⌊p.magnitude⌋₊ = digitsValue p.whole := by
  rw [Nat.floor_eq_iff p.magnitude_nonneg, magnitude]
  have hlow := decimalsValue_nonneg p.decimals
  have hhigh := decimalsValue_lt_one h.decimals
  constructor <;> linarith

end NumeralParts

/-- The number that a numeral stands for. -/
def numeralValue (s : String) : ℚ := (NumeralParts.ofText s).value

/-- What makes a numeral the canonical one of its number. -/
structure IsCanonicalNumeral (s : String) : Prop where
  numeral : isNumeral s = true
  /-- All digits of the whole part, zeros included, and no further zero in front of them. -/
  whole : (NumeralParts.ofText s).whole = Decimal.digitsOf ⌊|numeralValue s|⌋₊
  /-- No zero at the end of the decimals. -/
  decimals : (NumeralParts.ofText s).decimals.getLast? ≠ some '0'
  /-- No point without decimals. -/
  point : s.toList.getLast? ≠ some '.'
  /-- No sign on zero. -/
  sign : numeralValue s = 0 → s.toList.head? ≠ some '-'

/-- The sign of a canonical numeral is that of its number. -/
theorem IsCanonicalNumeral.negative_iff {p : NumeralParts} (hp : p.AreDigits)
    (h : IsCanonicalNumeral p.text) : p.negative = true ↔ p.value < 0 := by
  have hsign := h.sign
  rw [numeralValue, NumeralParts.ofText_text hp] at hsign
  have hsize := p.magnitude_nonneg
  constructor
  · intro hnegative
    have hfirst : p.text.toList.head? = some '-' := by
      rw [NumeralParts.text, hnegative, String.toList_ofList]
      rfl
    have hvalue : p.value ≤ 0 := by
      rw [NumeralParts.value, if_pos hnegative]
      linarith
    exact lt_of_le_of_ne hvalue fun hzero => hsign hzero hfirst
  · intro hvalue
    by_contra hpositive
    rw [NumeralParts.value, if_neg hpositive] at hvalue
    linarith

/-- **Canonical numerals of one number are equal.** -/
theorem IsCanonicalNumeral.eq_of_value_eq {s t : String} (hs : IsCanonicalNumeral s)
    (ht : IsCanonicalNumeral t) (h : numeralValue s = numeralValue t) : s = t := by
  obtain ⟨p, hp, rfl⟩ := NumeralParts.exists_text_eq hs.numeral
  obtain ⟨q, hq, rfl⟩ := NumeralParts.exists_text_eq ht.numeral
  have hvalue : p.value = q.value := by
    rwa [numeralValue, numeralValue, NumeralParts.ofText_text hp, NumeralParts.ofText_text hq] at h
  have hsize : p.magnitude = q.magnitude := by
    rw [← p.abs_value, ← q.abs_value, hvalue]
  have hnegative : p.negative = q.negative := by
    rw [Bool.eq_iff_iff, hs.negative_iff hp, ht.negative_iff hq, hvalue]
  have hwhole : p.whole = q.whole := by
    have hpw := hs.whole
    have hqw := ht.whole
    rw [numeralValue, NumeralParts.ofText_text hp] at hpw
    rw [numeralValue, NumeralParts.ofText_text hq, ← hvalue] at hqw
    exact hpw.trans hqw.symm
  have hdecimals : p.decimals = q.decimals := by
    have hpd := hs.decimals
    have hqd := ht.decimals
    rw [NumeralParts.ofText_text hp] at hpd
    rw [NumeralParts.ofText_text hq] at hqd
    refine eq_of_decimalsValue_eq hp.decimals hq.decimals hpd hqd ?_
    rw [NumeralParts.magnitude, NumeralParts.magnitude, hwhole] at hsize
    exact add_left_cancel hsize
  rw [NumeralParts.text, NumeralParts.text, hnegative, hwhole, hdecimals]

/-! ### Numbers with limited decimals -/

namespace Decimal.Fixed

/-- Digits are those without the zeros at the end, and these zeros. -/
theorem exists_append_zeros (digits : List Char) :
    ∃ k, dropTrailingZeros digits ++ List.replicate k '0' = digits := by
  have hsplit : digits.reverse.takeWhile (· == '0') ++ digits.reverse.dropWhile (· == '0') =
      digits.reverse := List.takeWhile_append_dropWhile
  obtain ⟨k, hk⟩ : ∃ k, digits.reverse.takeWhile (· == '0') = List.replicate k '0' :=
    ⟨_, List.eq_replicate_iff.2 ⟨rfl, fun c hc => by
      have hzero := List.mem_takeWhile_imp (p := (· == '0')) hc
      exact eq_of_beq hzero⟩⟩
  refine ⟨k, ?_⟩
  rw [hk] at hsplit
  have hreverse := congrArg List.reverse hsplit
  rwa [List.reverse_append, List.reverse_replicate, List.reverse_reverse] at hreverse

theorem getLast?_dropTrailingZeros (digits : List Char) :
    (dropTrailingZeros digits).getLast? ≠ some '0' := by
  rw [dropTrailingZeros, List.getLast?_reverse]
  intro hfirst
  have hnot := List.head?_dropWhile_not (· == '0') digits.reverse
  rw [hfirst] at hnot
  cases hnot

theorem decimalsValue_dropTrailingZeros (digits : List Char) :
    decimalsValue (dropTrailingZeros digits) = decimalsValue digits := by
  obtain ⟨k, hk⟩ := exists_append_zeros digits
  rw [← decimalsValue_append_zeros _ k, hk]

theorem tenTo_pos (k : ℕ) : 0 < tenTo k := Nat.pow_pos (by decide)

theorem cast_tenTo (k : ℕ) : ((tenTo k : ℕ) : ℚ) = 10 ^ k := by
  rw [tenTo, Nat.pow_eq, Nat.cast_pow, Nat.cast_ofNat]

/-- The decimals of a number stand for what its units are beyond whole ones. -/
theorem decimalsValue_decimalDigits (f : Fixed) :
    decimalsValue f.decimalDigits = (f.units % tenTo f.decimals : ℕ) / (tenTo f.decimals : ℕ) := by
  by_cases hnone : f.decimals = 0
  · rw [decimalDigits, if_pos hnone, hnone]
    simp [decimalsValue, digitsValue, tenTo, Nat.mod_one]
  · have hfits : (digitsOf (f.units % tenTo f.decimals)).length ≤ f.decimals :=
      (Nat.length_toDigits_le_iff (by decide) (Nat.pos_of_ne_zero hnone)).2
        (Nat.mod_lt _ (tenTo_pos _))
    have hlength : f.decimalDigits.length = f.decimals := by
      rw [decimalDigits, if_neg hnone, List.length_append, List.length_replicate,
        Nat.sub_add_cancel hfits]
    have hvalue : digitsValue f.decimalDigits = f.units % tenTo f.decimals := by
      rw [decimalDigits, if_neg hnone, digitsValue_zeros_append, digitsValue_digitsOf]
    rw [decimalsValue, hvalue, hlength, cast_tenTo]

/-- The parts of a number with limited decimals. -/
def parts (f : Fixed) : NumeralParts :=
  ⟨f.negative && f.units ≠ 0, f.wholeDigits, dropTrailingZeros f.decimalDigits⟩

theorem areDigits_parts (f : Fixed) : f.parts.AreDigits :=
  ⟨isDigits_digitsOf _, all_isDigit_dropTrailingZeros f⟩

theorem text_parts (f : Fixed) : f.parts.text = f.trimmed := rfl

theorem magnitude_parts (f : Fixed) : f.parts.magnitude = f.units / (tenTo f.decimals : ℕ) := by
  have hpos : (tenTo f.decimals : ℚ) ≠ 0 := by exact_mod_cast (tenTo_pos f.decimals).ne'
  have hunits : (f.units : ℚ) = (tenTo f.decimals : ℕ) * (f.units / tenTo f.decimals : ℕ) +
      (f.units % tenTo f.decimals : ℕ) := by
    exact_mod_cast (Nat.div_add_mod f.units (tenTo f.decimals)).symm
  rw [NumeralParts.magnitude, parts, decimalsValue_dropTrailingZeros, decimalsValue_decimalDigits,
    wholeDigits, digitsValue_digitsOf]
  rw [eq_div_iff hpos, hunits, add_mul, div_mul_cancel₀ _ hpos, mul_comm]

/-- The number that a number with limited decimals is. -/
def value (f : Fixed) : ℚ :=
  if f.negative then -(f.units / (tenTo f.decimals : ℕ)) else f.units / (tenTo f.decimals : ℕ)

theorem value_parts (f : Fixed) : f.parts.value = f.value := by
  rw [NumeralParts.value, magnitude_parts, value, parts]
  cases f.negative with
  | false => rfl
  | true =>
    by_cases hzero : f.units = 0
    · simp [hzero]
    · simp [hzero]

end Decimal.Fixed

/-- A number with limited decimals is written as a numeral of its value. -/
theorem numeralValue_trimmed (f : Decimal.Fixed) : numeralValue f.trimmed = f.value := by
  rw [numeralValue, ← f.text_parts, NumeralParts.ofText_text f.areDigits_parts, f.value_parts]

/-- **A number with limited decimals is written as a canonical numeral.** -/
theorem isCanonicalNumeral_trimmed (f : Decimal.Fixed) : IsCanonicalNumeral f.trimmed := by
  have hparts : NumeralParts.ofText f.trimmed = f.parts := by
    rw [← f.text_parts, NumeralParts.ofText_text f.areDigits_parts]
  refine ⟨isNumeral_trimmed f, ?_, ?_, ?_, ?_⟩
  · rw [numeralValue, hparts, NumeralParts.abs_value, NumeralParts.floor_magnitude f.areDigits_parts]
    show f.wholeDigits = Decimal.digitsOf (digitsValue f.wholeDigits)
    rw [Decimal.Fixed.wholeDigits, digitsValue_digitsOf]
  · rw [hparts]
    exact Decimal.Fixed.getLast?_dropTrailingZeros _
  · rw [← f.text_parts]
    exact NumeralParts.getLast?_text f.areDigits_parts
  · intro hzero hsign
    rw [← f.text_parts] at hsign
    have hnegative := NumeralParts.negative_of_head?_text f.areDigits_parts hsign
    rw [numeralValue, hparts] at hzero
    have hunits := NumeralParts.abs_value f.parts
    rw [hzero, abs_zero, Decimal.Fixed.magnitude_parts] at hunits
    have hsome : f.units ≠ 0 := by
      intro hnone
      rw [Decimal.Fixed.parts, hnone] at hnegative
      simp at hnegative
    have hpos : 0 < (f.units : ℚ) / (Decimal.tenTo f.decimals : ℕ) :=
      div_pos (by exact_mod_cast Nat.pos_of_ne_zero hsome)
        (by exact_mod_cast Decimal.Fixed.tenTo_pos _)
    exact hpos.ne hunits

end SixAxis
