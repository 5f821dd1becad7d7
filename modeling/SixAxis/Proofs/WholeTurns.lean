import SixAxis.Arm.Angle
import SixAxis.Proofs.RealScalar

/-!
# Whole turns in exact arithmetic

An angle of a joint is fitted by whole turns: it stays the same position, and among the positions
within limits that two turns to either side can reach it is the one closest to the reference.

* `leastBy_le` — **the selection is least**, for a comparison that follows a cost;
* `mem_map_turns_iff` — fitting tries the angles of the same position above -900 and up to 900
  degrees, and no others;
* `fitAngle_eq_add_turns` — fitting changes an angle by whole turns;
* `fitAngle_degrees_eq_iff` — fitting gives the same value for angles of the same position only;
* `fitAngle_closest` — **fitting finds the closest value within limits**,
  wherever there is one at all within limits above -900 and up to 900 degrees.
-/

namespace SixAxis

/-! ### Least elements -/

section leastBy

variable {α β : Type} [LinearOrder β] {before : α → α → Bool} (cost : α → β)

theorem foldl_least (h : ∀ a b, before a b = true ↔ cost a < cost b) (a : α) (rest : List α) :
    rest.foldl (fun best b => if before b best then b else best) a ∈ a :: rest
      ∧ ∀ b ∈ a :: rest,
        cost (rest.foldl (fun best b => if before b best then b else best) a) ≤ cost b := by
  induction rest generalizing a with
  | nil => simp
  | cons c rest ih =>
    rw [List.foldl_cons]
    by_cases hc : before c a = true
    · obtain ⟨hmem, hle⟩ := ih c
      rw [if_pos hc]
      refine ⟨List.mem_cons_of_mem _ hmem, fun b hb => ?_⟩
      rcases List.mem_cons.1 hb with rfl | hb
      · exact (hle c List.mem_cons_self).trans ((h c b).1 hc).le
      · exact hle b hb
    · obtain ⟨hmem, hle⟩ := ih a
      have hca : cost a ≤ cost c := not_lt.1 fun hlt => hc ((h c a).2 hlt)
      rw [if_neg hc]
      constructor
      · rcases List.mem_cons.1 hmem with heq | hmem
        · rw [heq]
          exact List.mem_cons_self
        · exact List.mem_cons_of_mem _ (List.mem_cons_of_mem _ hmem)
      · intro b hb
        rcases List.mem_cons.1 hb with rfl | hb
        · exact hle b List.mem_cons_self
        · rcases List.mem_cons.1 hb with rfl | hb
          · exact (hle a List.mem_cons_self).trans hca
          · exact hle b (List.mem_cons_of_mem _ hb)

/-- **The selection is least**: it is one of the list, and none of the list costs less. -/
theorem leastBy_le (h : ∀ a b, before a b = true ↔ cost a < cost b) {l : List α} {a : α}
    (ha : leastBy before l = some a) : a ∈ l ∧ ∀ b ∈ l, cost a ≤ cost b := by
  cases l with
  | nil => simp [leastBy] at ha
  | cons c rest =>
    rw [leastBy, Option.some.injEq] at ha
    rw [← ha]
    exact foldl_least cost h c rest

theorem exists_leastBy (before : α → α → Bool) {l : List α} {b : α} (hb : b ∈ l) :
    ∃ a, leastBy before l = some a := by
  cases l with
  | nil => cases hb
  | cons c rest => exact ⟨_, rfl⟩

end leastBy

/-- The cost of a value beside a reference: its distance, then its size. -/
noncomputable def fittingCost (reference x : ℝ) : ℝ ×ₗ ℝ := toLex (|x - reference|, |x|)

theorem pairBefore_iff (a b : ℝ × ℝ) : pairBefore a b = true ↔ toLex a < toLex b := by
  rw [pairBefore, Prod.Lex.toLex_lt_toLex]
  by_cases h : a.1 = b.1
  · simp [h]
  · simp [h]

/-! ### Normalizing -/

theorem remainder_turn (x : ℝ) :
    Scalar.remainder x 360 = x - 360 * ⌊x / 360⌋ := rfl

/-- Normalizing changes an angle by whole turns. -/
theorem normalizeAngle_eq_add_turns (v : ℝ) : ∃ k : ℤ, normalizeAngle v = v + k * 360 := by
  simp only [normalizeAngle, Scalar.literal_half_turn, Scalar.literal_turn, remainder_turn,
    Scalar.beq_real, decide_eq_true_eq]
  by_cases h : v + 180 - 360 * (⌊(v + 180) / 360⌋ : ℝ) - 180 = -180
  · refine ⟨-⌊(v + 180) / 360⌋ + 1, ?_⟩
    rw [if_pos h]
    push_cast
    linarith
  · refine ⟨-⌊(v + 180) / 360⌋, ?_⟩
    rw [if_neg h]
    push_cast
    ring

/-- A normalized angle is above -180 and up to 180 degrees. -/
theorem normalizeAngle_mem (v : ℝ) : -180 < normalizeAngle v ∧ normalizeAngle v ≤ 180 := by
  simp only [normalizeAngle, Scalar.literal_half_turn, Scalar.literal_turn, remainder_turn,
    Scalar.beq_real, decide_eq_true_eq]
  have hlow := Int.floor_le ((v + 180) / 360)
  have hhigh := Int.lt_floor_add_one ((v + 180) / 360)
  by_cases h : v + 180 - 360 * (⌊(v + 180) / 360⌋ : ℝ) - 180 = -180
  · rw [if_pos h]
    norm_num
  · rw [if_neg h]
    have hge : -180 ≤ v + 180 - 360 * (⌊(v + 180) / 360⌋ : ℝ) - 180 := by linarith
    exact ⟨lt_of_le_of_ne hge (Ne.symm h), by linarith⟩

/-- Angles less than a turn apart that differ by whole turns are the same. -/
theorem eq_of_turns {x y : ℝ} {n : ℤ} (h : x = y + n * 360) (hlow : -360 < x - y)
    (hhigh : x - y < 360) : x = y := by
  have hupper : (n : ℝ) < 1 := by linarith
  have hlower : (-1 : ℝ) < n := by linarith
  have hupper' : n < 1 := by exact_mod_cast hupper
  have hlower' : -1 < n := by exact_mod_cast hlower
  have hzero : n = 0 := by omega
  rw [h, hzero, Int.cast_zero, zero_mul, add_zero]

/-- Angles of the same position are normalized to the same angle. -/
theorem normalizeAngle_congr {v w : ℝ} {k : ℤ} (h : w = v + k * 360) :
    normalizeAngle w = normalizeAngle v := by
  obtain ⟨i, hi⟩ := normalizeAngle_eq_add_turns w
  obtain ⟨j, hj⟩ := normalizeAngle_eq_add_turns v
  obtain ⟨hw, hw'⟩ := normalizeAngle_mem w
  obtain ⟨hv, hv'⟩ := normalizeAngle_mem v
  refine eq_of_turns (n := k + i - j) ?_ (by linarith) (by linarith)
  rw [hi, hj, h]
  push_cast
  ring

/-! ### Fitting -/

variable {v x reference : ℝ} {limits : Interval ℝ}

/-- The values that fitting chooses from. -/
noncomputable def fittingOptions (v : ℝ) (limits : Interval ℝ) : List ℝ :=
  ((turns.map fun k => normalizeAngle v + k * 360).filter limits.contains)

/-- An angle some whole turns further. -/
noncomputable def turned (v : ℝ) (n : ℤ) : ℝ := v + n * 360

theorem fitAngle_eq (v : ℝ) (limits : Interval ℝ) (reference : ℝ) :
    fitAngle v limits reference =
      (leastBy (fun a b => pairBefore (|a - reference|, |a|) (|b - reference|, |b|))
        (fittingOptions v limits)).getD (normalizeAngle v) := by
  simp only [fitAngle, fittingOptions, Scalar.literal_turn, Scalar.abs_real]

/-- Angles of the same position are fitted alike. -/
theorem fitAngle_congr {w : ℝ} {k : ℤ} (h : w = v + k * 360) (limits : Interval ℝ)
    (reference : ℝ) : fitAngle w limits reference = fitAngle v limits reference := by
  rw [fitAngle_eq, fitAngle_eq, fittingOptions, fittingOptions, normalizeAngle_congr h]

theorem turns_real : (turns : List ℝ) = [-2, -1, 0, 1, 2] := by
  simp [turns]

/-- Fitting tries exactly the angles of the same position above -900 and up to 900 degrees. -/
theorem mem_map_turns_iff (v x : ℝ) :
    x ∈ (turns.map fun k => normalizeAngle v + k * 360) ↔
      (∃ k : ℤ, x = v + k * 360) ∧ -900 < x ∧ x ≤ 900 := by
  obtain ⟨j, hj⟩ := normalizeAngle_eq_add_turns v
  obtain ⟨hn, hn'⟩ := normalizeAngle_mem v
  rw [turns_real]
  simp only [List.map_cons, List.map_nil, List.mem_cons, List.not_mem_nil, or_false]
  constructor
  · rintro (rfl | rfl | rfl | rfl | rfl)
    · exact ⟨⟨j - 2, by rw [hj]; push_cast; ring⟩, by linarith, by linarith⟩
    · exact ⟨⟨j - 1, by rw [hj]; push_cast; ring⟩, by linarith, by linarith⟩
    · exact ⟨⟨j, by rw [hj]; ring⟩, by linarith, by linarith⟩
    · exact ⟨⟨j + 1, by rw [hj]; push_cast; ring⟩, by linarith, by linarith⟩
    · exact ⟨⟨j + 2, by rw [hj]; push_cast; ring⟩, by linarith, by linarith⟩
  · rintro ⟨⟨k, hk⟩, hlow, hhigh⟩
    have hdiff : x = normalizeAngle v + ((k - j : ℤ) : ℝ) * 360 := by
      rw [hj, hk]
      push_cast
      ring
    have hupper : ((k - j : ℤ) : ℝ) < 3 := by linarith
    have hlower : (-3 : ℝ) < ((k - j : ℤ) : ℝ) := by linarith
    have hupper' : k - j < 3 := by exact_mod_cast hupper
    have hlower' : -3 < k - j := by exact_mod_cast hlower
    rw [hdiff]
    have hcases : k - j = -2 ∨ k - j = -1 ∨ k - j = 0 ∨ k - j = 1 ∨ k - j = 2 := by omega
    rcases hcases with h | h | h | h | h <;> rw [h] <;> norm_num

theorem mem_fittingOptions_iff : x ∈ fittingOptions v limits ↔
    (∃ k : ℤ, x = v + k * 360) ∧ (-900 < x ∧ x ≤ 900) ∧ limits.contains x = true := by
  rw [fittingOptions, List.mem_filter, mem_map_turns_iff]
  tauto

/-- Fitting changes an angle by whole turns. -/
theorem fitAngle_eq_add_turns (v : ℝ) (limits : Interval ℝ) (reference : ℝ) :
    ∃ k : ℤ, fitAngle v limits reference = v + k * 360 := by
  rw [fitAngle_eq]
  cases h : leastBy (fun a b => pairBefore (|a - reference|, |a|) (|b - reference|, |b|))
      (fittingOptions v limits) with
  | none => exact normalizeAngle_eq_add_turns v
  | some a =>
    rw [Option.getD_some]
    exact (mem_fittingOptions_iff.1
      (leastBy_le (fittingCost reference) (fun a b => pairBefore_iff _ _) h).1).1

/-- Every value of the same position within limits above -900 and up to 900 degrees is tried. -/
theorem mem_fittingOptions (hlow : -900 < limits.low) (hhigh : limits.high ≤ 900)
    (hx : limits.contains x = true) {k : ℤ} (hk : x = v + k * 360) :
    x ∈ fittingOptions v limits := by
  have hbounds := hx
  simp only [Interval.contains, Bool.and_eq_true, decide_eq_true_eq] at hbounds
  exact mem_fittingOptions_iff.2
    ⟨⟨k, hk⟩, ⟨hlow.trans_le hbounds.1, hbounds.2.trans hhigh⟩, hx⟩

theorem fittingCost_le_iff (x y : ℝ) : fittingCost reference x ≤ fittingCost reference y ↔
    |x - reference| < |y - reference| ∨ |x - reference| = |y - reference| ∧ |x| ≤ |y| := by
  rw [fittingCost, fittingCost, Prod.Lex.toLex_le_toLex]

/-- Where there is a value to choose, fitting chooses one that costs least. -/
theorem fitAngle_least (hx : x ∈ fittingOptions v limits) (reference : ℝ) :
    fitAngle v limits reference ∈ fittingOptions v limits ∧ ∀ y ∈ fittingOptions v limits,
      fittingCost reference (fitAngle v limits reference) ≤ fittingCost reference y := by
  obtain ⟨a, ha⟩ := exists_leastBy
    (fun a b => pairBefore (|a - reference|, |a|) (|b - reference|, |b|)) hx
  rw [fitAngle_eq, ha, Option.getD_some]
  exact leastBy_le (fittingCost reference) (fun a b => pairBefore_iff _ _) ha

/-- **Fitting finds the closest value within limits** if there is one. -/
theorem fitAngle_closest (hlow : -900 < limits.low) (hhigh : limits.high ≤ 900)
    (hx : limits.contains x = true) {k : ℤ} (hk : x = v + k * 360) (reference : ℝ) :
    limits.contains (fitAngle v limits reference) = true
      ∧ |fitAngle v limits reference - reference| ≤ |x - reference| := by
  have hmem := mem_fittingOptions hlow hhigh hx hk
  obtain ⟨hin, hleast⟩ := fitAngle_least hmem reference
  refine ⟨(List.mem_filter.1 hin).2, ?_⟩
  rcases (fittingCost_le_iff _ x).1 (hleast x hmem) with h | h
  · exact h.le
  · exact h.1.le

/-- A value within limits that is less than half a turn from the reference is what fitting
returns. -/
theorem fitAngle_eq_of_near (hlow : -900 < limits.low) (hhigh : limits.high ≤ 900)
    (hx : limits.contains x = true) {k : ℤ} (hk : x = v + k * 360)
    (hnear : |x - reference| < 180) : fitAngle v limits reference = x := by
  obtain ⟨-, hle⟩ := fitAngle_closest hlow hhigh hx hk reference
  obtain ⟨j, hj⟩ := fitAngle_eq_add_turns v limits reference
  have hx' := abs_lt.1 hnear
  have hv := abs_lt.1 (hle.trans_lt hnear)
  refine eq_of_turns (n := j - k) ?_ (by linarith [hx'.2, hv.1]) (by linarith [hx'.1, hv.2])
  rw [hj, hk]
  push_cast
  ring

/-! ### Angles in radians -/

/-- A fitted angle is the same position. -/
theorem coe_radians_fitAngle (θ : ℝ) (limits : Interval ℝ) (reference : ℝ) :
    ((Scalar.radians (fitAngle (Scalar.degrees θ) limits reference) : ℝ) : Real.Angle) = θ := by
  obtain ⟨k, hk⟩ := fitAngle_eq_add_turns (Scalar.degrees θ) limits reference
  rw [hk, Real.Angle.angle_eq_iff_two_pi_dvd_sub]
  refine ⟨k, ?_⟩
  rw [Scalar.radians_real, Scalar.degrees_real]
  field_simp
  ring

/-- Values in degrees of the same position differ by whole turns. -/
theorem exists_turns_of_coe_eq {θ : ℝ} (h : ((Scalar.radians x : ℝ) : Real.Angle) = θ) :
    ∃ k : ℤ, x = Scalar.degrees θ + k * 360 := by
  obtain ⟨k, hk⟩ := Real.Angle.angle_eq_iff_two_pi_dvd_sub.1 h
  refine ⟨k, ?_⟩
  rw [← Scalar.degrees_radians x, Scalar.degrees_real, Scalar.degrees_real,
    show Scalar.radians x = θ + 2 * Real.pi * k by linarith]
  field_simp
  ring

/-- Only angles of the same position are fitted to the same value. -/
theorem fitAngle_degrees_eq_iff (θ φ : ℝ) (limits : Interval ℝ) (reference : ℝ) :
    fitAngle (Scalar.degrees θ) limits reference = fitAngle (Scalar.degrees φ) limits reference ↔
      (θ : Real.Angle) = φ := by
  constructor
  · intro heq
    rw [← coe_radians_fitAngle θ limits reference, heq, coe_radians_fitAngle]
  · intro heq
    have hsame : ((Scalar.radians (Scalar.degrees θ) : ℝ) : Real.Angle) = φ := by
      rw [Scalar.radians_degrees, heq]
    obtain ⟨k, hk⟩ := exists_turns_of_coe_eq hsame
    exact fitAngle_congr hk limits reference

end SixAxis
