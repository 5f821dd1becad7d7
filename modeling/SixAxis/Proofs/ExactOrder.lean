import SixAxis.Proofs.Doubles
import SixAxis.Proofs.RoundedNumbers

/-!
# The order of numbers

Numbers are compared by their exact values, in whichever form they are given: a whole number is not
rounded to a double before it is compared with one, and a truth value is zero or one.  Infinities
are beyond all values, and a double that is no number has no rank among them.

* `Double.IsNormal` — the parts of a finite double, which settle its size from the exponent down;
* `Double.rank?`, `Number.rank?` — where a number stands;
* `Number.order?_eq_compare` — **numbers are compared by where they stand**;
* `Number.order?_congr` — numbers that equal each other compare alike with every number.
-/

namespace SixAxis

namespace Double

open Float.Model

variable {x y : Float}

/-! ### The size of a double -/

/-- The parts of a finite double: a mantissa has all its bits, unless the exponent is the least. -/
structure IsNormal (m : ℕ) (e : ℤ) : Prop where
  bits : m < 2 ^ 53
  least : Decimal.Binary.leastExponent ≤ e
  full : Decimal.Binary.leastExponent < e → 2 ^ 52 ≤ m

theorem isNormal_unpack {s : UnpackedFloat.Sign} {m : ℕ} {e : ℤ} {hm : 0 < m}
    (h : x.toModel.unpack = .finite s m e hm) : IsNormal m e := by
  have hfraction (bits : ℕ) : bits % Decimal.Binary.fractionSize < 2 ^ 52 :=
    Nat.mod_lt _ (Nat.pow_pos (by decide))
  rw [show x.toModel.unpack = UnpackedFloat.unpack Format.binary64 x.toBits.toBitVec from rfl,
    UnpackedFloat.unpack] at h
  by_cases hones : @UnpackedFloat.unpackExponent Format.binary64 x.toBits.toBitVec = -1#_
  · simp only [if_pos hones] at h
    split at h <;> cases h
  simp only [if_neg hones] at h
  split at h
  · rename_i hzeros
    split at h
    · cases h
    · cases h
      -- the exponent bits are zeros: the exponent is the least
      rw [hzeros, toNat_unpackMantissa]
      refine ⟨(hfraction _).trans (by decide), le_rfl, fun h => absurd h (lt_irrefl _)⟩
  · rename_i hsome
    cases h
    have hexponent : (@UnpackedFloat.unpackExponent Format.binary64 x.toBits.toBitVec).toNat ≠ 0 :=
      fun hzero => hsome (BitVec.eq_of_toNat_eq hzero)
    have hleast : Decimal.Binary.leastExponent ≤
        (@UnpackedFloat.unpackExponent Format.binary64 x.toBits.toBitVec).toNat - (1075 : ℤ) := by
      rw [Decimal.Binary.leastExponent]
      omega
    rw [toNat_fullMantissa]
    refine ⟨?_, hleast, fun _ => ?_⟩
    · have hbits := hfraction x.toBits.toNat
      rw [show Decimal.Binary.fractionSize = 2 ^ 52 from rfl] at hbits ⊢
      omega
    · exact Nat.le_add_right _ _

namespace IsNormal

variable {m n : ℕ} {e f : ℤ}

/-- Of two doubles the one with the greater exponent is the greater. -/
theorem size_lt (hm : IsNormal m e) (hn : IsNormal n f) (h : e < f) :
    (m * 2 ^ e : ℚ) < n * 2 ^ f := by
  have hbits : (m : ℚ) < 2 ^ 53 := by exact_mod_cast hm.bits
  have hfull : (2 ^ 52 : ℚ) ≤ n := by exact_mod_cast hn.full (hm.least.trans_lt h)
  calc (m * 2 ^ e : ℚ) < 2 ^ 53 * 2 ^ e := by gcongr
    _ = 2 ^ 52 * 2 ^ (e + 1) := by rw [zpow_add_one₀ two_ne_zero]; ring
    _ ≤ n * 2 ^ f := by
      gcongr
      · norm_num
      · omega

/-- Exponents settle the order of two doubles, and mantissas where these are the same. -/
theorem compare_size (hm : IsNormal m e) (hn : IsNormal n f) :
    (compare e f).then (compare m n) = compare (m * 2 ^ e : ℚ) (n * 2 ^ f) := by
  rcases lt_trichotomy e f with h | rfl | h
  · rw [compare_lt_iff_lt.2 h, compare_lt_iff_lt.2 (hm.size_lt hn h), Ordering.lt_then]
  · have hunit : (0 : ℚ) < 2 ^ e := by positivity
    have hmono : StrictMono fun k : ℕ => (k * 2 ^ e : ℚ) := fun _ _ hlt =>
      mul_lt_mul_of_pos_right (Nat.cast_lt.2 hlt) hunit
    rw [compare_eq_iff_eq.2 rfl, Ordering.eq_then, ← cmp_eq_compare, ← cmp_eq_compare]
    exact (hmono.cmp_map_eq m n).symm
  · rw [compare_gt_iff_gt.2 h, compare_gt_iff_gt.2 (hn.size_lt hm h), Ordering.gt_then]

end IsNormal

/-! ### Where a double stands -/

/-- The values of numbers between two infinities. -/
abbrev Rank : Type := WithBot (WithTop ℚ)

/-- Where a value stands. -/
def Rank.of (q : ℚ) : Rank := (q : WithTop ℚ)

namespace Rank

theorem strictMono_of : StrictMono of := WithBot.coe_strictMono.comp WithTop.coe_strictMono

theorem compare_of (p q : ℚ) : compare (of p) (of q) = compare p q := by
  rw [← cmp_eq_compare, ← cmp_eq_compare]
  exact strictMono_of.cmp_map_eq p q

end Rank

/-- Where a double in parts stands; what is no number has no rank. -/
def rankOf : UnpackedFloat → Option Rank
  | .notANumber => none
  | .infinity .positive => some ⊤
  | .infinity .negative => some ⊥
  | .zero _ => some (.of 0)
  | .finite s m e _ => some (.of (s.apply m * 2 ^ e))

/-- Where a double stands. -/
def rank? (x : Float) : Option Rank := rankOf x.toModel.unpack

/-- Whether the parts of a double are normal, if it has any. -/
def HasNormalParts : UnpackedFloat → Prop
  | .finite _ m e _ => IsNormal m e
  | _ => True

theorem hasNormalParts_unpack (x : Float) : HasNormalParts x.toModel.unpack := by
  cases h : x.toModel.unpack with
  | finite => exact isNormal_unpack h
  | _ => trivial

theorem compare_finite {s t : UnpackedFloat.Sign} {m n : ℕ} {e f : ℤ} {hm : 0 < m} {hn : 0 < n}
    (ha : IsNormal m e) (hb : IsNormal n f) :
    UnpackedFloat.compare (.finite s m e hm) (.finite t n f hn) =
      some (compare (s.apply m * 2 ^ e : ℚ) (t.apply n * 2 ^ f)) := by
  have hsize : (0 : ℚ) < m * 2 ^ e := by positivity
  have hsize' : (0 : ℚ) < n * 2 ^ f := by positivity
  cases s <;> cases t <;>
    simp only [UnpackedFloat.compare, UnpackedFloat.Sign.apply, Int.cast_neg, Int.cast_natCast,
      neg_mul, ha.compare_size hb, Option.some_inj]
  · rw [← cmp_eq_compare, ← cmp_eq_compare, cmp_swap]
    exact (StrictAnti.cmp_map_eq (fun _ _ => neg_lt_neg) _ _).symm
  · exact (compare_lt_iff_lt.2 (by linarith)).symm
  · exact (compare_gt_iff_gt.2 (by linarith)).symm

theorem compare_finite_zero (s t : UnpackedFloat.Sign) {m : ℕ} {e : ℤ} (hm : 0 < m) :
    UnpackedFloat.compare (.finite s m e hm) (.zero t) =
      some (compare (s.apply m * 2 ^ e : ℚ) 0) := by
  have hsize : (0 : ℚ) < m * 2 ^ e := by positivity
  cases s <;>
    simp only [UnpackedFloat.compare, UnpackedFloat.Sign.apply, Int.cast_neg, Int.cast_natCast,
      neg_mul, Option.some_inj]
  · exact (compare_lt_iff_lt.2 (by linarith)).symm
  · exact (compare_gt_iff_gt.2 hsize).symm

/-- Finite numbers and zeros stand among each other, and infinities beyond them. -/
theorem compare_eq_rank {a b : UnpackedFloat} (ha : HasNormalParts a) (hb : HasNormalParts b) :
    a.compare b = (rankOf a).bind fun p => (rankOf b).map (compare p) := by
  cases a with
  | notANumber => rfl
  | infinity s => cases b with
    | notANumber => cases s <;> rfl
    | infinity t => cases s <;> cases t <;> rfl
    | zero t => cases s <;> rfl
    | finite t => cases s <;> cases t <;> rfl
  | zero s => cases b with
    | notANumber => rfl
    | infinity t => cases t <;> rfl
    | zero t => rfl
    | finite t n f hn =>
      rw [compare_swap, compare_finite_zero t s hn, ← Rank.compare_of, Option.map_some,
        ← Std.OrientedCmp.eq_swap]
      rfl
  | finite s m e hm => cases b with
    | notANumber => cases s <;> rfl
    | infinity t => cases s <;> cases t <;> rfl
    | zero t =>
      rw [compare_finite_zero s t hm, ← Rank.compare_of]
      rfl
    | finite t n f hn =>
      rw [compare_finite ha hb, ← Rank.compare_of]
      rfl

theorem rank?_of_ofFloat? {b : Decimal.Binary} (h : Decimal.Binary.ofFloat? x = some b) :
    rank? x = some (.of b.value) := by
  have hfinite : x.toModel.unpack.isFinite = true := by
    have hsome := @isSome_ofFloat? x
    rw [h] at hsome
    exact hsome.symm
  rw [← value_of_ofFloat? h, rank?, value]
  revert hfinite
  cases x.toModel.unpack with
  | zero => exact fun _ => rfl
  | finite => exact fun _ => rfl
  | _ =>
    intro hfinite
    cases hfinite

end Double

/-! ### Numbers in any form -/

open Double

theorem Decimal.Binary.compare_signedFraction (b : Decimal.Binary) (n : ℤ) :
    compare b.signedFraction.1 (n * b.signedFraction.2) = compare b.value n := by
  have hden : (0 : ℚ) < b.fraction.2 := by exact_mod_cast b.fraction_pos
  have hmono : StrictMono fun k : ℤ => (k / b.fraction.2 : ℚ) := fun _ _ hlt =>
    div_lt_div_of_pos_right (Int.cast_lt.2 hlt) hden
  have hvalue : b.value = (b.signedFraction.1 / b.fraction.2 : ℚ) := by
    rw [b.value_eq_fraction, signedFraction]
    cases b.negative <;> simp [neg_div]
  have hwhole : (n : ℚ) = ((n * b.fraction.2 : ℤ) / b.fraction.2 : ℚ) := by
    rw [Int.cast_mul, Int.cast_natCast, mul_div_cancel_right₀ _ hden.ne']
  rw [hvalue, hwhole, ← cmp_eq_compare, ← cmp_eq_compare]
  exact (hmono.cmp_map_eq _ _).symm

/-- A double is compared with a whole number by where they stand. -/
theorem Decimal.compareWhole?_eq (x : Float) (n : ℤ) :
    compareWhole? x n = (rank? x).map (compare · (.of n)) := by
  rw [compareWhole?]
  cases hb : Binary.ofFloat? x with
  | some b =>
    rw [rank?_of_ofFloat? hb, Option.map_some, Rank.compare_of]
    exact congrArg some (b.compare_signedFraction n)
  | none =>
    have hinfinite : x.toModel.unpack.isFinite = false := by
      have hnone := @isSome_ofFloat? x
      rw [hb] at hnone
      exact hnone.symm
    have hzero : (0.0 : Float).toModel.unpack = .zero .positive := by rfl
    simp only [lt_iff, hzero]
    show (if x.toModel.unpack.isNaN = true then none else _) = _
    rw [rank?]
    revert hinfinite
    cases x.toModel.unpack with
    | notANumber => exact fun _ => rfl
    | infinity s => cases s <;> exact fun _ => rfl
    | _ =>
      intro hinfinite
      cases hinfinite

namespace Number

/-- Where a number stands. -/
def rank? (n : Number) : Option Rank :=
  match n.asWhole? with
  | some k => some (.of k)
  | none => Double.rank? n.value

/-- **Numbers are compared by where they stand.** -/
theorem order?_eq_compare (a b : Number) :
    Numeral.order? a b = a.rank?.bind fun p => b.rank?.map (compare p) := by
  have hwhole (m n : ℤ) : compare m n = compare (Rank.of m) (.of n) := by
    rw [← cmp_eq_compare, ← cmp_eq_compare]
    exact ((Rank.strictMono_of.comp Int.cast_strictMono).cmp_map_eq m n).symm
  have hmixed (m : ℤ) (y : Float) : (Decimal.compareWhole? y m).map Ordering.swap =
      (Double.rank? y).map (compare (.of m)) := by
    rw [Decimal.compareWhole?_eq, Option.map_map]
    exact congrArg (Option.map · _) (funext fun p => Std.OrientedCmp.eq_swap.symm)
  cases a with
  | real x => cases b with
    | real y =>
      show Numeral.scalarOrder? x y = _
      rw [Numeral.scalarOrder?_eq]
      exact compare_eq_rank (hasNormalParts_unpack x) (hasNormalParts_unpack y)
    | _ => exact (Decimal.compareWhole?_eq x _).trans Option.map_eq_bind
  | _ => cases b with
    | real y => exact hmixed _ y
    | _ => exact congrArg some (hwhole _ _)

theorem same_iff {a b : Number} : a.same b = true ↔ ∃ p, a.rank? = some p ∧ b.rank? = some p := by
  rw [Numeral.same, beq_iff_eq, order?_eq_compare]
  constructor
  · intro h
    obtain ⟨p, hp, h⟩ := Option.bind_eq_some_iff.1 h
    obtain ⟨q, hq, h⟩ := Option.map_eq_some_iff.1 h
    exact ⟨p, hp, (compare_eq_iff_eq.1 h) ▸ hq⟩
  · rintro ⟨p, hp, hq⟩
    rw [hp, hq]
    exact congrArg some (compare_eq_iff_eq.2 rfl)

/-- Numbers that equal each other compare alike with every number. -/
theorem order?_congr {a b : Number} (h : a.same b = true) (c : Number) :
    Numeral.order? a c = Numeral.order? b c := by
  obtain ⟨p, ha, hb⟩ := same_iff.1 h
  rw [order?_eq_compare, order?_eq_compare, ha, hb]

theorem order?_congr_right {a b : Number} (h : a.same b = true) (c : Number) :
    Numeral.order? c a = Numeral.order? c b := by
  rw [Numeral.order?_swap a c, Numeral.order?_swap b c, order?_congr h]

end Number

end SixAxis
