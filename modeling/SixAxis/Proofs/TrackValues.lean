import SixAxis.Proofs.MovedRobots

/-!
# Values of a track in exact arithmetic

The frame that a track carries moves along a straight line, and the point of that line next to a
given one is found by a scalar product.  Where its value is outside the limits the nearer end takes
its place.  That is the best value within the limits, because all the others lie beyond it, seen
from the value that was moved.

The ends of limits keep the form they were given in, and over the real numbers any two numbers
compare by their values.

* `Numeral.order?_real` — numbers compare by value;
* `Interval.mul_clamp_nonneg` — the values within limits lie beyond a value moved into them;
* `ExternalAxis.squared_frameAt` — the distance of the carried frame to a point, by values;
* `ExternalAxis.closest_isClosest` — **the closest value is closest**.
-/

namespace SixAxis

/-! ### Numbers by value -/

namespace Numeral

/-- The value of a whole number. -/
theorem value_of_asWhole? {a : Numeral ℝ} {n : Int} (h : a.asWhole? = some n) : a.value = n := by
  cases a with
  | truth b =>
    rw [← Option.some.inj h]
    rfl
  | whole m =>
    rw [← Option.some.inj h]
    rfl
  | real x => cases h

theorem scalarOrder?_real (x y : ℝ) : scalarOrder? x y = some (compare x y) := by
  rcases lt_trichotomy x y with h | h | h
  · rw [scalarOrder?, if_pos h, compare_lt_iff_lt.2 h]
  · simp [scalarOrder?, h]
  · rw [scalarOrder?, if_neg h.not_gt, if_pos h, compare_gt_iff_gt.2 h]

/-- **Any two numbers compare by their values.** -/
theorem order?_real (a b : Numeral ℝ) : order? a b = some (compare a.value b.value) := by
  rw [order?]
  cases ha : a.asWhole? with
  | some m =>
    cases hb : b.asWhole? with
    | some n =>
      rw [value_of_asWhole? ha, value_of_asWhole? hb, ← cmp_eq_compare,
        Int.cast_strictMono.cmp_map_eq, cmp_eq_compare]
    | none =>
      rw [value_of_asWhole? ha, ← cmp_eq_compare, ← cmp_swap, cmp_eq_compare]
      rfl
  | none =>
    cases hb : b.asWhole? with
    | some n =>
      rw [value_of_asWhole? hb]
      rfl
    | none => exact scalarOrder?_real a.value b.value

theorem lt_iff_value {a b : Numeral ℝ} : a < b ↔ a.value < b.value := by
  show order? a b = some .lt ↔ _
  rw [order?_real, Option.some_inj, compare_lt_iff_lt]

theorem le_iff_value {a b : Numeral ℝ} : a ≤ b ↔ a.value ≤ b.value := by
  show order? a b = some .lt ∨ order? a b = some .eq ↔ _
  rw [order?_real, Option.some_inj, Option.some_inj, compare_lt_iff_lt, compare_eq_iff_eq,
    le_iff_lt_or_eq]

end Numeral

/-! ### Moving into limits -/

namespace Interval

variable {limits : Interval (Numeral ℝ)} {v w : Numeral ℝ}

theorem contains_iff_value : limits.contains v = true ↔
    limits.low.value ≤ v.value ∧ v.value ≤ limits.high.value := by
  rw [contains, Bool.and_eq_true, decide_eq_true_iff, decide_eq_true_iff, Numeral.le_iff_value,
    Numeral.le_iff_value]

/-- Only the value of a number matters. -/
theorem contains_value (limits : Interval (Numeral ℝ)) (v : Numeral ℝ) :
    limits.contains (.real v.value) = limits.contains v := by
  rw [Bool.eq_iff_iff, contains_iff_value, contains_iff_value]
  rfl

theorem low_le_high (limits : Interval (Numeral ℝ)) : limits.low.value ≤ limits.high.value :=
  not_lt.1 fun h => limits.ordered (Numeral.lt_iff_value.2 h)

/-- A number within the limits stays what it is. -/
theorem clamp_of_contains (h : limits.contains v = true) : limits.clamp v = v := by
  obtain ⟨hlow, hhigh⟩ := contains_iff_value.1 h
  rw [clamp, if_neg fun hlt => hlow.not_gt (Numeral.lt_iff_value.1 hlt),
    if_neg fun hlt => hhigh.not_gt (Numeral.lt_iff_value.1 hlt)]

theorem clamp_of_lt_low (h : v.value < limits.low.value) : limits.clamp v = limits.low := by
  rw [clamp, if_pos (Numeral.lt_iff_value.2 h), if_neg limits.ordered]

theorem clamp_of_high_lt (h : limits.high.value < v.value) : limits.clamp v = limits.high := by
  have hlow : ¬ v < limits.low := fun hlt =>
    (limits.low_le_high.trans h.le).not_gt (Numeral.lt_iff_value.1 hlt)
  rw [clamp, if_neg hlow, if_pos (Numeral.lt_iff_value.2 h)]

/-- A number is below the limits, above them or within them. -/
theorem below_or_above_or_contains (limits : Interval (Numeral ℝ)) (v : Numeral ℝ) :
    v.value < limits.low.value ∨ limits.high.value < v.value ∨ limits.contains v = true := by
  by_cases hlow : v.value < limits.low.value
  · exact .inl hlow
  · by_cases hhigh : limits.high.value < v.value
    · exact .inr (.inl hhigh)
    · exact .inr (.inr (contains_iff_value.2 ⟨not_lt.1 hlow, not_lt.1 hhigh⟩))

/-- A number that is moved into limits lies within them. -/
theorem contains_clamp_real (limits : Interval (Numeral ℝ)) (v : Numeral ℝ) :
    limits.contains (limits.clamp v) = true := by
  rcases limits.below_or_above_or_contains v with hbelow | habove | hin
  · rw [clamp_of_lt_low hbelow, contains_iff_value]
    exact ⟨le_rfl, limits.low_le_high⟩
  · rw [clamp_of_high_lt habove, contains_iff_value]
    exact ⟨limits.low_le_high, le_rfl⟩
  · rw [clamp_of_contains hin, hin]

/-- **The values within limits lie beyond a value moved into them**, seen from that value. -/
theorem mul_clamp_nonneg (hw : limits.contains w = true) (v : Numeral ℝ) :
    0 ≤ (w.value - (limits.clamp v).value) * ((limits.clamp v).value - v.value) := by
  obtain ⟨hlow, hhigh⟩ := contains_iff_value.1 hw
  rcases limits.below_or_above_or_contains v with hbelow | habove | hin
  · rw [clamp_of_lt_low hbelow]
    exact mul_nonneg (sub_nonneg.2 hlow) (sub_nonneg.2 hbelow.le)
  · rw [clamp_of_high_lt habove]
    exact mul_nonneg_of_nonpos_of_nonpos (sub_nonpos.2 hhigh) (sub_nonpos.2 habove.le)
  · rw [clamp_of_contains hin, sub_self, mul_zero]

end Interval

/-! ### The frame that an axis carries -/

theorem Motion.displacement_apply (v p : Vec ℝ) : (displacement v).apply p = p + v := by
  ext <;> simp [apply_eq, displacement, Vec.unitX_eq, Vec.unitY_eq, Vec.unitZ_eq]

namespace ExternalAxis

/-- Whether the frames of an axis are orthonormal. -/
structure IsExact (a : ExternalAxis ℝ) : Prop where
  attachment : a.attachment.IsOrthonormal
  axis : a.axis.IsOrthonormal

variable {a : ExternalAxis ℝ}

/-- All values are angles. -/
theorem motionAt?_real (a : ExternalAxis ℝ) (v : ℝ) : a.motionAt? v = .ok (a.motionAt v) := by
  rw [motionAt?]
  split <;> rfl

theorem motionAt_isRigid (h : a.IsExact) (v : ℝ) : (a.motionAt v).IsRigid := by
  rw [motionAt]
  cases a.motion with
  | linear => exact Motion.displacement_isRigid _
  | rotational => exact Motion.rotation_isRigid h.axis.zaxis_unit _ _

theorem frameAt?_eq (h : a.IsExact) (v : ℝ) : a.frameAt? v = .ok (a.frameAt v) := by
  rw [frameAt?, motionAt?_real]
  exact h.attachment.moved?_eq (motionAt_isRigid h v)

/-- The origin of the frame that a track carries. -/
theorem point_frameAt (hlinear : a.motion = .linear) (v : ℝ) :
    (a.frameAt v).point = a.attachment.point + a.axis.zaxis.scale v := by
  have hmotion : a.motionAt v = Motion.displacement (a.axis.zaxis.scale v) := by
    rw [motionAt, hlinear]
  rw [frameAt, hmotion, Frame.point_moved, Motion.displacement_apply]

/-- The value at which a track without limits would come closest to a point. -/
noncomputable def abreast (a : ExternalAxis ℝ) (p : Vec ℝ) : ℝ :=
  a.axis.zaxis.dot (p - a.attachment.point)

/-- The squared distance of the carried frame to a point, beside that for another value. -/
theorem squared_frameAt (h : a.IsExact) (hlinear : a.motion = .linear) (p : Vec ℝ) (v w : ℝ) :
    ((a.frameAt w).point - p).dot ((a.frameAt w).point - p) =
      ((a.frameAt v).point - p).dot ((a.frameAt v).point - p)
        + 2 * ((w - v) * (v - a.abreast p)) + (w - v) * (w - v) := by
  have hunit := h.axis.zaxis_unit
  rw [point_frameAt hlinear, point_frameAt hlinear, abreast]
  simp only [Vec.dot_eq, Vec.sub_x, Vec.sub_y, Vec.sub_z, Vec.add_x, Vec.add_y, Vec.add_z,
    Vec.scale_x, Vec.scale_y, Vec.scale_z] at hunit ⊢
  linear_combination (w * w - v * v) * hunit

/-- A value within the limits that brings the carried frame closer to a point than every other one
does. -/
structure IsClosest (a : ExternalAxis ℝ) (p : Vec ℝ) (v : ℝ) : Prop where
  within : a.limits.contains (.real v) = true
  least : ∃ f, a.frameAt? v = .ok f ∧ ∀ w : Numeral ℝ, a.limits.contains w = true →
    ∃ g, a.frameAt? w.value = .ok g ∧ (f.point - p).length ≤ (g.point - p).length
      ∧ ((f.point - p).length = (g.point - p).length → w.value = v)

/-- A value that is moved into the limits leads to the frame at a value within them, and each value
within the limits to its own frame. -/
structure StaysWithin (a : ExternalAxis ℝ) : Prop where
  inside : ∀ v : Numeral ℝ, a.limits.contains (a.limits.clamp v) = true ∧
    a.frameAt? (a.limits.clamp v).value = .ok (a.frameWithin v)
  kept : ∀ w : Numeral ℝ, a.limits.contains w = true → a.frameAt? w.value = .ok (a.frameWithin w)

theorem staysWithin (h : a.IsExact) : a.StaysWithin where
  inside v := ⟨a.limits.contains_clamp_real v, frameAt?_eq h _⟩
  kept w hw := by
    rw [frameWithin, Interval.clamp_of_contains hw]
    exact frameAt?_eq h _

/-- The carried frame is closest to a point at the value abreast of it, moved into the limits. -/
theorem isClosest_clamp (h : a.IsExact) (hlinear : a.motion = .linear) (p : Vec ℝ) :
    a.IsClosest p (a.limits.clamp (.real (a.abreast p))).value := by
  set c := a.limits.clamp (.real (a.abreast p))
  have hin : a.limits.contains c = true := a.limits.contains_clamp_real _
  refine ⟨(a.limits.contains_value c).trans hin, a.frameAt c.value, frameAt?_eq h _,
    fun w hw => ⟨a.frameAt w.value, frameAt?_eq h _, ?_⟩⟩
  have hbeyond : 0 ≤ (w.value - c.value) * (c.value - a.abreast p) :=
    Interval.mul_clamp_nonneg hw (.real (a.abreast p))
  have hsquared := squared_frameAt h hlinear p c.value w.value
  -- beside the distance at `c` the squared distance at `w` has a part that is not negative, and
  -- the square of how far apart the two values are
  constructor
  · refine Real.sqrt_le_sqrt ?_
    rw [hsquared]
    linarith [mul_self_nonneg (w.value - c.value)]
  · intro heq
    rw [← Vec.length_sq, ← Vec.length_sq, heq] at hsquared
    refine sub_eq_zero.1 (mul_self_eq_zero.1 (le_antisymm ?_ (mul_self_nonneg _)))
    linarith

/-- **The closest value is closest**, and no value that is moved into the limits leads out of
them. -/
theorem closest_isClosest (h : a.IsExact) (hlinear : a.motion = .linear) (p : Vec ℝ) :
    a.IsClosest p (a.closest p) ∧ a.StaysWithin :=
  ⟨isClosest_clamp h hlinear p, staysWithin h⟩

/-- A track that climbs, beside the frame that it carries. -/
noncomputable def climbingTrack : ExternalAxis ℝ where
  name := "climbing track"
  motion := .linear
  attachment := Robot.uprightFrame ⟨10.0, 20.0, 30.0⟩
  axis := ⟨⟨0, 50.0, 0⟩, ⟨0.8, 0, -0.6⟩, ⟨0, 1, 0⟩⟩
  limits := ⟨.truth false, .whole 100, by
    rw [Numeral.lt_iff_value]
    norm_num [Numeral.value, Scalar.ofInt]⟩
  baseMesh := ⟨[⟨0, 50.0, 0⟩]⟩
  linkMesh := ⟨[⟨10.0, 20.0, 30.0⟩, ⟨10.0, 20.0, 35.0⟩]⟩
  carriesRobot := true
  number := none
  named := by decide
  carrier_linear _ := rfl

theorem climbingTrack_isExact : climbingTrack.IsExact where
  attachment := Robot.isOrthonormal_uprightFrame _
  axis := by constructor <;> norm_num [climbingTrack, Vec.dot_eq]

theorem abreast_climbingTrack : climbingTrack.abreast ⟨100, 5, 200⟩ = 190 := by
  norm_num [abreast, climbingTrack, Robot.uprightFrame, Frame.zaxis, Vec.dot_eq]

/-- For a point beyond its upper end the track stays at that end. -/
theorem closest_climbingTrack : climbingTrack.closest ⟨100, 5, 200⟩ = 100 := by
  have hhigh : climbingTrack.limits.high.value = 100 := by
    norm_num [climbingTrack, Numeral.value, Scalar.ofInt]
  have hbeyond : climbingTrack.limits.high.value
      < (Numeral.real (climbingTrack.abreast ⟨100, 5, 200⟩)).value := by
    rw [hhigh, abreast_climbingTrack]
    norm_num [Numeral.value]
  show (climbingTrack.limits.clamp (.real (climbingTrack.abreast ⟨100, 5, 200⟩))).value = 100
  rw [Interval.clamp_of_high_lt hbeyond, hhigh]

theorem closest_isClosest_climbingTrack :
    climbingTrack.IsExact ∧ climbingTrack.motion = .linear ∧
      climbingTrack.closest ⟨100, 5, 200⟩ = 100 ∧
      climbingTrack.IsClosest ⟨100, 5, 200⟩ (climbingTrack.closest ⟨100, 5, 200⟩) ∧
      climbingTrack.StaysWithin :=
  ⟨climbingTrack_isExact, rfl, closest_climbingTrack,
    closest_isClosest climbingTrack_isExact rfl _⟩

end ExternalAxis

end SixAxis
