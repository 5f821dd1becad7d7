import SixAxis.Proofs.TurnsWithinLimits

/-!
# The closest turn

All whole turns of an angle are the same position.  Fitting picks one of them: within the limits of
the joint, closest to a reference, and of two equally close ones the one closer to zero.  It looks
at five turns only, and these are all that there are within limits above -900 and up to 900 degrees,
so nothing closer is missed, however wide the limits are and wherever they begin and end.

* `Interval.turnsWithin` — the angles of the same position within limits;
* `IsFitted` — what is asked of a fitted angle, beside the angles it can be picked from;
* `fitAngle_isFitted_inter` — **fitting is optimal among the turns that it covers**, for any limits;
* `fitAngle_isFitted` — **fitting is optimal among all turns**, for limits that it covers.
-/

namespace SixAxis

/-- The angles of the same position that are within limits. -/
def Interval.turnsWithin (limits : Interval ℝ) (v : ℝ) : Set ℝ :=
  {y | (∃ n : ℤ, y = turned v n) ∧ limits.contains y = true}

/-- An angle that is fitted to a reference: the best one of those it can be picked from, or if there
is none, the representative of its position above -180 and up to 180 degrees. -/
structure IsFitted (v reference : ℝ) (candidates : Set ℝ) (x : ℝ) : Prop where
  turned : ∃ n : ℤ, x = turned v n
  mem : candidates.Nonempty → x ∈ candidates
  closest : ∀ y ∈ candidates, |x - reference| ≤ |y - reference|
  /-- Of equally close angles it is one with the least absolute value. -/
  smallest : ∀ y ∈ candidates, |y - reference| = |x - reference| → |x| ≤ |y|
  normalized : ¬ candidates.Nonempty → -180 < x ∧ x ≤ 180

variable {v reference : ℝ} {limits : Interval ℝ}

/-- Fitting picks from the turns within limits that are in the range it covers. -/
theorem mem_fittingOptions_iff_mem_inter (v x : ℝ) (limits : Interval ℝ) :
    x ∈ fittingOptions v limits ↔ x ∈ limits.turnsWithin v ∩ Set.Ioc (-900) 900 := by
  rw [mem_fittingOptions_iff]
  constructor
  · rintro ⟨hturn, hrange, hin⟩
    exact ⟨⟨hturn, hin⟩, hrange⟩
  · rintro ⟨⟨hturn, hin⟩, hrange⟩
    exact ⟨hturn, hrange, hin⟩

/-- **Fitting is optimal among the turns that it covers**, for any limits. -/
theorem fitAngle_isFitted_inter (v : ℝ) (limits : Interval ℝ) (reference : ℝ) :
    IsFitted v reference (limits.turnsWithin v ∩ Set.Ioc (-900) 900)
      (fitAngle v limits reference) := by
  have hturned := fitAngle_eq_add_turns v limits reference
  by_cases hany : (limits.turnsWithin v ∩ Set.Ioc (-900) 900).Nonempty
  · obtain ⟨y, hy⟩ := hany
    obtain ⟨hmem, hleast⟩ :=
      fitAngle_least ((mem_fittingOptions_iff_mem_inter v y limits).2 hy) reference
    have hcost : ∀ y ∈ limits.turnsWithin v ∩ Set.Ioc (-900) 900,
        fittingCost reference (fitAngle v limits reference) ≤ fittingCost reference y :=
      fun y hy => hleast y ((mem_fittingOptions_iff_mem_inter v y limits).2 hy)
    refine ⟨hturned, fun _ => (mem_fittingOptions_iff_mem_inter v _ limits).1 hmem,
      fun y hy => ?_, fun y hy hequal => ?_, fun hnone => absurd ⟨y, hy⟩ hnone⟩
    · rcases (fittingCost_le_iff _ y).1 (hcost y hy) with hless | hsame
      · exact hless.le
      · exact hsame.1.le
    · rcases (fittingCost_le_iff _ y).1 (hcost y hy) with hless | hsame
      · exact absurd hequal hless.ne'
      · exact hsame.2
  · -- There is nothing to choose, and the normalized angle is kept.
    have hoptions : fittingOptions v limits = [] := List.eq_nil_iff_forall_not_mem.2 fun y hy =>
      hany ⟨y, (mem_fittingOptions_iff_mem_inter v y limits).1 hy⟩
    have hfit : fitAngle v limits reference = normalizeAngle v := by
      rw [fitAngle_eq, hoptions]
      rfl
    have hnone : ∀ y ∈ limits.turnsWithin v ∩ Set.Ioc (-900) 900, False :=
      fun y hy => hany ⟨y, hy⟩
    refine ⟨hturned, fun h => absurd h hany, fun y hy => (hnone y hy).elim,
      fun y hy => (hnone y hy).elim, fun _ => ?_⟩
    rw [hfit]
    exact normalizeAngle_mem v

/-- **Fitting is optimal among all turns**, for limits above -900 and up to 900 degrees. -/
theorem fitAngle_isFitted (hrange : Set.Icc limits.low limits.high ⊆ Set.Ioc (-900) 900)
    (v reference : ℝ) :
    IsFitted v reference (limits.turnsWithin v) (fitAngle v limits reference) := by
  have hcovered : limits.turnsWithin v ⊆ Set.Ioc (-900) 900 :=
    fun y hy => hrange (Interval.contains_iff_mem_Icc.1 hy.2)
  have hfitted := fitAngle_isFitted_inter v limits reference
  rwa [Set.inter_eq_left.2 hcovered] at hfitted

/-- Limits of one and a half turns in both directions. -/
def oddLimits : Interval ℝ := ⟨-540, 540, by norm_num⟩

/-- Half a turn and one and a half are equally far from a whole one, and both are within limits that
end at the second: the first is picked. -/
theorem fitAngle_isFitted_halfTurn :
    Set.Icc oddLimits.low oddLimits.high ⊆ Set.Ioc (-900) 900
      ∧ IsFitted 180 360 (oddLimits.turnsWithin 180) (fitAngle 180 oddLimits 360)
      ∧ fitAngle 180 oddLimits 360 = 180 := by
  have hrange : Set.Icc oddLimits.low oddLimits.high ⊆ Set.Ioc (-900) 900 := by
    rintro x ⟨hlow, hhigh⟩
    simp only [oddLimits] at hlow hhigh
    exact ⟨by linarith, by linarith⟩
  have hfitted := fitAngle_isFitted hrange 180 360
  refine ⟨hrange, hfitted, ?_⟩
  have hhalf : (180 : ℝ) ∈ oddLimits.turnsWithin 180 := by
    refine ⟨⟨0, by simp [turned]⟩, Interval.contains_iff_mem_Icc.2 ?_⟩
    simp only [oddLimits, Set.mem_Icc]
    norm_num
  generalize fitAngle 180 oddLimits 360 = x at hfitted
  obtain ⟨n, hn⟩ := hfitted.turned
  rw [turned] at hn
  have hclose : |x - 360| ≤ 180 := (hfitted.closest 180 hhalf).trans_eq (by norm_num)
  obtain ⟨hlow, hhigh⟩ := abs_le.1 hclose
  have hn0 : 0 ≤ n := by
    have hreal : (-1 : ℝ) < n := by linarith
    have hint : -1 < n := by exact_mod_cast hreal
    omega
  have hn1 : n ≤ 1 := by
    have hreal : (n : ℝ) < 2 := by linarith
    have hint : n < 2 := by exact_mod_cast hreal
    omega
  have hcases : n = 0 ∨ n = 1 := by omega
  rcases hcases with rfl | rfl
  · rw [hn]
    norm_num
  · -- One and a half turns would have to be closer to zero than a half.
    have hsmall : |x| ≤ |(180 : ℝ)| := by
      refine hfitted.smallest 180 hhalf ?_
      rw [hn]
      norm_num
    rw [hn] at hsmall
    norm_num at hsmall

end SixAxis
