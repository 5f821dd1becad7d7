import SixAxis.Program.Movement
import SixAxis.Proofs.CheckedSteps
import SixAxis.Proofs.WristOnShoulder

/-!
# Arms with a regular upper arm

The check before a target is solved asks that nothing is divided by zero: twice the length of the
upper arm, times the reach.  The product of two doubles that are far from the smallest ones is not
zero, whatever the reach, so an arm whose upper arm has an ordinary length passes the check for
every target.

* `Double.isRegular` — a positive double that is neither subnormal nor very small;
* `Double.mul_beq_zero_of_isRegular` — its product with one that is not below another such double;
* `Robot.isDegenerateFor_of_isRegular` — **an arm with a regular upper arm passes the check**;
* `Movement.exists_solution` — a movement that passes the other checks is solved.
-/

namespace SixAxis

namespace Double

open Float.Model Float.Model.UnpackedFloat

/-! ### Rounding what has all digits -/

theorem shiftRight_mantissa (em : ExtendedMantissa) (k : Nat) :
    (em >>> k).mantissa = em.mantissa / 2 ^ k := by
  induction k with
  | zero => exact (Nat.div_one _).symm
  | succ k ih =>
    show (em >>> k).mantissa / 2 = _
    rw [ih, Nat.div_div_eq_div_mul, Nat.pow_succ]

theorem mantissa_le_roundedMantissa (em : ExtendedMantissa) : em.mantissa ≤ em.roundedMantissa := by
  obtain ⟨m, round, sticky⟩ := em
  cases round with
  | false => cases sticky <;> exact Nat.le_refl m
  | true =>
    cases sticky with
    | false => exact Nat.le_add_right m _
    | true => exact Nat.le_succ m

/-- A mantissa with at least all digits is shifted to one with exactly these. -/
theorem shiftToTargetExponent_bounds {m : Nat} {e : Int} (hm : 2 ^ 52 ≤ m) (he : -1000 ≤ e) :
    2 ^ 52 ≤ (shiftToTargetExponent Format.binary64 m e .exact).1.mantissa ∧
      (shiftToTargetExponent Format.binary64 m e .exact).1.mantissa < 2 ^ 53 ∧
      -1000 ≤ (shiftToTargetExponent Format.binary64 m e .exact).2 := by
  have hpos : m ≠ 0 := by omega
  have hlog : 52 ≤ m.log2 := (Nat.le_log2 hpos).2 hm
  obtain ⟨k, hk⟩ := Nat.exists_eq_add_of_le hlog
  have htarget : Format.binary64.targetExponent (totalExponent m e) = e + k := by
    simp only [Format.targetExponent, totalExponent, Format.mantissaBits, Format.minExponent]
    omega
  have hshift : (Format.binary64.targetExponent (totalExponent m e) - e).toNat = k := by
    rw [htarget]
    omega
  have hlow : 2 ^ 52 * 2 ^ k ≤ m := by
    rw [← Nat.pow_add, ← hk]
    exact Nat.log2_self_le hpos
  have hhigh : m < 2 ^ 53 * 2 ^ k := by
    have hlt : m < 2 ^ (m.log2 + 1) := Nat.lt_log2_self
    rwa [hk, Nat.add_right_comm, Nat.pow_add] at hlt
  have hmantissa : (shiftToTargetExponent Format.binary64 m e .exact).1.mantissa = m / 2 ^ k := by
    rw [shiftToTargetExponent, shiftToExponent, hshift]
    exact shiftRight_mantissa _ k
  have hexponent : (shiftToTargetExponent Format.binary64 m e .exact).2 = e + k := by
    rw [shiftToTargetExponent, shiftToExponent, hshift]
  rw [hmantissa, hexponent]
  refine ⟨(Nat.le_div_iff_mul_le (Nat.two_pow_pos k)).2 hlow,
    (Nat.div_lt_iff_lt_mul (Nat.two_pow_pos k)).2 hhigh, by omega⟩

/-- What has all digits is rounded to something that has them. -/
theorem roundWithAccuracy_bounds (s : Sign) {m : Nat} {e : Int} (hm : 2 ^ 52 ≤ m)
    (he : -1000 ≤ e) :
    ∃ m' e' hpos, roundWithAccuracy Format.binary64 s m e .exact = .finite s m' e' hpos ∧
      2 ^ 52 ≤ m' ∧ m' < 2 ^ 53 ∧ -1000 ≤ e' := by
  obtain ⟨hlow, -, hexponent⟩ := shiftToTargetExponent_bounds hm he
  -- rounding up can give one digit too many, which a second shift takes away
  have hrounded := Nat.le_trans hlow (mantissa_le_roundedMantissa _)
  obtain ⟨hlow', hhigh', hexponent'⟩ := shiftToTargetExponent_bounds hrounded hexponent
  have hpos := Nat.lt_of_lt_of_le (Nat.two_pow_pos 52) hlow'
  exact ⟨_, _, hpos, dif_neg (Nat.ne_of_gt hpos), hlow', hhigh', hexponent'⟩

/-! ### Bits that do not stand for zero -/

theorem unpack_ne_zero {b : BitVec Format.binary64.numBits}
    (h : unpackExponent b ≠ 0#_) (s : Sign) : UnpackedFloat.unpack Format.binary64 b ≠ .zero s := by
  rw [UnpackedFloat.unpack]
  simp only [if_neg h]
  split
  · split <;> exact fun h => nomatch h
  · exact fun h => nomatch h

theorem unpack_pack_ne_zero (s t : Sign) {m : Nat} {e : Int} (hpos : 0 < m) (hlow : 2 ^ 52 ≤ m)
    (hhigh : m < 2 ^ 53) (he : -1000 ≤ e) :
    (Float.Model.pack (.finite s m e hpos)).unpack ≠ .zero t := by
  have hdigits : m.log2 + 1 = Format.binary64.mantissaBits := by
    have hle : 52 ≤ m.log2 := (Nat.le_log2 (by omega)).2 hlow
    have hlt : m.log2 < 53 := (Nat.log2_lt (by omega)).2 hhigh
    show m.log2 + 1 = 53
    omega
  refine unpack_ne_zero ?_ t
  show unpackExponent (UnpackedFloat.pack Format.binary64 (.finite s m e hpos)) ≠ _
  rw [UnpackedFloat.pack]
  by_cases hlarge : 2 ^ Format.binary64.exponentBits ≤
      (e + Format.binary64.exponentBias + Format.binary64.mantissaBitsWithoutImplicit).toNat + 1
  · rw [if_pos hlarge, packedInfinity, unpackExponent_packComponents]
    decide
  · rw [if_neg hlarge, if_pos hdigits, unpackExponent_packComponents]
    intro hzero
    have hbits : (e + 1023 + 52).toNat % 2 ^ 11 = 0 := congrArg BitVec.toNat hzero
    have hfits : ¬ 2 ^ 11 ≤ (e + 1023 + 52).toNat + 1 := hlarge
    omega

variable {x y b : Float}

theorem beq_zero_eq_false (h : ∀ s, x.toModel.unpack ≠ .zero s) : (x == 0.0) = false := by
  show x.toModel.unpack.beq (0.0 : Float).toModel.unpack = false
  rw [IsNought.unpack_zero]
  revert h
  cases x.toModel.unpack with
  | zero s => exact fun h => absurd rfl (h s)
  | notANumber => exact fun _ => rfl
  | infinity s => cases s <;> exact fun _ => rfl
  | finite s m e hm => cases s <;> exact fun _ => rfl

/-! ### Products -/

/-- Whether a double is positive and neither subnormal nor very small. -/
def isRegular (x : Float) : Bool :=
  match x.toModel.unpack with
  | .finite .positive m e _ => decide (2 ^ 52 ≤ m) && decide (-400 ≤ e)
  | _ => false

theorem unpack_of_isRegular (hx : isRegular x = true) :
    ∃ m e h, x.toModel.unpack = .finite .positive m e h ∧ 2 ^ 52 ≤ m ∧ -400 ≤ e := by
  rw [isRegular] at hx
  split at hx
  · rename_i m e h hunpack
    rw [Bool.and_eq_true, decide_eq_true_iff, decide_eq_true_iff] at hx
    exact ⟨m, e, h, hunpack, hx⟩
  · cases hx

/-- The product of a regular double and one that is not below another regular double is not
zero. -/
theorem mul_beq_zero_of_isRegular (hx : isRegular x = true) (hb : isRegular b = true)
    (hy : ¬ y < b) : (x * y == 0.0) = false := by
  obtain ⟨m, e, hpos, hunpack, hm, he⟩ := unpack_of_isRegular hx
  obtain ⟨mb, eb, hposb, hunpackb, hmb, heb⟩ := unpack_of_isRegular hb
  rw [lt_iff, hunpackb] at hy
  refine beq_zero_eq_false fun t => ?_
  show (Float.Model.pack (UnpackedFloat.mul Format.binary64 x.toModel.unpack
    y.toModel.unpack)).unpack ≠ .zero t
  rw [hunpack]
  revert hy
  cases y.toModel.unpack with
  | notANumber =>
    intro _
    show (Float.Model.pack .notANumber).unpack ≠ .zero t
    exact unpack_ne_zero (by decide +kernel) t
  | infinity s =>
    intro _
    show (Float.Model.pack (.infinity (.positive * s))).unpack ≠ .zero t
    cases s with
    | positive => exact unpack_ne_zero (by decide +kernel) t
    | negative => exact unpack_ne_zero (by decide +kernel) t
  | zero s => exact fun hy => absurd rfl hy
  | finite s my ey hposy =>
    cases s with
    | negative => exact fun hy => absurd rfl hy
    | positive =>
      intro hy
      have hey : eb ≤ ey := by
        refine Int.not_lt.1 fun hlt => hy ?_
        show (some ((compare ey eb).then (compare my mb)) == some .lt) = true
        rw [Int.compare_eq_lt.2 hlt]
        rfl
      obtain ⟨m', e', hpos', hround, hlow, hhigh, hexponent⟩ :=
        roundWithAccuracy_bounds (.positive * .positive)
          (Nat.le_trans hm (Nat.le_mul_of_pos_right m hposy)) (show -1000 ≤ e + ey by omega)
      show (Float.Model.pack (roundWithAccuracy Format.binary64 (.positive * .positive) (m * my)
        (e + ey) .exact)).unpack ≠ .zero t
      rw [hround]
      exact unpack_pack_ne_zero _ t hpos' hlow hhigh hexponent

end Double

/-! ### The check of the arm -/

theorem ArmPlane.isDegenerate_of_isRegular {p : ArmPlane Float}
    (h : Double.isRegular (2.0 * p.upperArm.length) = true) (reach : Float) :
    p.isDegenerate reach = false := by
  rw [isDegenerate, Bool.and_eq_false_iff]
  by_cases hreach : reach < epsilon
  · exact .inl (by rw [decide_eq_true hreach]; rfl)
  · have hepsilon : Double.isRegular epsilon = true := by decide +kernel
    exact .inr (Double.mul_beq_zero_of_isRegular h hepsilon hreach)

/-- **An arm with a regular upper arm passes the check**, whatever the target. -/
theorem Robot.isDegenerateFor_of_isRegular {r : Robot Float}
    (h : Double.isRegular (2.0 * (ArmPlane.ofRobot r).upperArm.length) = true)
    (target : Frame Float) (reference : RobotJoints Float) :
    r.isDegenerateFor target reference = false := by
  rw [isDegenerateFor, List.any_eq_false]
  intro behind _
  rw [ArmPlane.isDegenerate_of_isRegular h]
  decide

/-- Whether a movement to a target without a configuration passes all checks before it is solved,
for a robot without external axes whose upper arm is regular. -/
def Movement.passesChecks (m : Movement) (r : Robot Float) : Bool :=
  r.axes.isEmpty && Double.isRegular (2.0 * (ArmPlane.ofRobot r).upperArm.length) &&
    m.target.configuration.isNone &&
    match m.worldTarget r with
    | .error _ => false
    | .ok target =>
      (Robot.seenUncarried target).isFinite &&
        !Scalar.infinite (r.baseTurn default (Robot.seenUncarried target) false)

theorem Movement.exists_solution {m : Movement} {r : Robot Float} (h : m.passesChecks r = true) :
    ∃ s, m.solution r = .ok s := by
  simp only [passesChecks, Bool.and_eq_true, List.isEmpty_iff, Option.isNone_iff_eq_none] at h
  obtain ⟨⟨⟨haxes, hregular⟩, hconfiguration⟩, h⟩ := h
  cases hworld : m.worldTarget r with
  | error f =>
    rw [hworld] at h
    cases h
  | ok target =>
    rw [hworld] at h
    simp only [Bool.and_eq_true, Bool.not_eq_true'] at h
    have hcarrier : r.carrier = none := by
      rw [Robot.carrier, haxes]
      rfl
    have hsolve : r.solve target m.target.external none default =
        .ok (r.solution target.copied m.target.external none default) :=
      Robot.solve_uncarried none hcarrier h.1 h.2
        (Robot.isDegenerateFor_of_isRegular hregular _ _)
    refine ⟨r.solution target.copied m.target.external none default, ?_⟩
    rw [solution, hworld, hconfiguration]
    exact hsolve

end SixAxis
