import SixAxis.Proofs.InverseKinematics
import SixAxis.Proofs.SolvedTargets

/-!
# Selection of a candidate in exact arithmetic

Which of the eight candidates is chosen when no configuration is asked for.  Both comparisons of the
selection follow a cost, so the chosen candidate is the one that costs least: by its distance and its
configuration among the candidates within reach and limits, and if there are none, by what keeps it
from them first.

* `Candidate.violation_eq_zero_iff` — nothing is added up exactly of a candidate within all limits;
* `Robot.nearer_iff` — the comparison of candidates that are not within reach and limits;
* `Robot.choose_isBest` — **the chosen candidate costs least**, in either case.
-/

namespace SixAxis

namespace Candidate

/-! ### Values outside their limits -/

theorem excess_real (limits : Interval ℝ) (v : ℝ) :
    excess limits v = max (max (limits.low - v) (v - limits.high)) 0 := by
  rw [excess, Scalar.larger_real, Scalar.larger_real, Scalar.literal_zero]

theorem excess_nonneg (limits : Interval ℝ) (v : ℝ) : 0 ≤ excess limits v := by
  rw [excess_real]
  exact le_max_right _ _

/-- A value exceeds its limits by nothing exactly if it is within them. -/
theorem excess_eq_zero_iff (limits : Interval ℝ) (v : ℝ) :
    excess limits v = 0 ↔ limits.contains v = true := by
  rw [excess_real, max_eq_right_iff, max_le_iff, sub_nonpos, sub_nonpos, Interval.contains,
    Bool.and_eq_true, decide_eq_true_eq, decide_eq_true_eq]

/-- The violation of a candidate is what its values exceed their limits by, all together. -/
theorem violation_ofRadians (r : Robot ℝ) (reference : RobotJoints ℝ) (i : Configuration)
    (radians : Vector ℝ 6) (reachable : Bool) :
    let c := ofRadians r reference i radians reachable
    c.violation = ∑ k, excess (r.jointLimits.get k) (c.joints.get k) := by
  intro c
  rw [Fin.sum_univ_six]
  simp [c, ofRadians, List.finRange_succ]

/-- Nothing is added up exactly of a candidate within all limits. -/
theorem violation_eq_zero_iff {r : Robot ℝ} {reference : RobotJoints ℝ} {target : Frame ℝ}
    {c : Candidate ℝ} (hc : c ∈ (r.candidates reference target).toList) :
    c.violation = 0 ↔ c.inLimits = true := by
  obtain ⟨behind, below, negative, rfl⟩ := (Robot.mem_candidates_iff _ _ _ _).1 hc
  rw [Robot.inLimits_candidate_iff, Robot.candidate_eq, violation_ofRadians,
    Finset.sum_eq_zero_iff_of_nonneg fun k _ => excess_nonneg _ _]
  simp only [Finset.mem_univ, true_imp_iff, excess_eq_zero_iff]
  rfl

/-- Whether a candidate is within reach and all limits. -/
def IsFeasible (c : Candidate ℝ) : Prop := c.reachable = true ∧ c.inLimits = true

end Candidate

namespace Robot

/-! ### Costs -/

/-- What the selection goes by when no candidate is within reach and limits: whether it is out of
reach, then how far it is outside its limits, then as among those that are within. -/
noncomputable def shortfallCost (reference : RobotJoints ℝ) (c : Candidate ℝ) :
    Bool ×ₗ ℝ ×ₗ ℝ ×ₗ Configuration :=
  toLex (!c.reachable, toLex (c.violation, selectionCost reference c))

theorem nearer_iff (reference : RobotJoints ℝ) (a b : Candidate ℝ) :
    Candidate.nearer reference a b = true ↔
      shortfallCost reference a < shortfallCost reference b := by
  rw [shortfallCost, shortfallCost, Prod.Lex.toLex_lt_toLex, Prod.Lex.toLex_lt_toLex,
    ← closer_iff, Candidate.nearer]
  -- Reachability decides first; the rest matters only where it is the same of both.
  by_cases hv : a.violation = b.violation
  · cases ha : a.reachable <;> cases hb : b.reachable <;> simp [hv]
  · cases ha : a.reachable <;> cases hb : b.reachable <;> simp [hv]

/-! ### The chosen candidate -/

/-- If no candidate is within reach and limits, the one that costs least in what it lacks is
chosen. -/
theorem choose_nearest {candidates : Vector (Candidate ℝ) 8}
    (hnone : ∀ c ∈ candidates.toList, ¬ c.IsFeasible) (reference : RobotJoints ℝ) :
    let best := (choose candidates reference).1
    best ∈ candidates.toList
      ∧ ∀ d ∈ candidates.toList, shortfallCost reference best ≤ shortfallCost reference d := by
  have hempty : (candidates.toList.filter fun c => c.reachable && c.inLimits) = [] := by
    refine List.filter_eq_nil_iff.2 fun c hc hboth => hnone c hc ?_
    rwa [Bool.and_eq_true] at hboth
  have hmem : candidates.get 0 ∈ candidates.toList :=
    Vector.mem_toList_iff.2 (Vector.getElem_mem _)
  obtain ⟨best, hbest⟩ := exists_leastBy (Candidate.nearer reference) hmem
  rw [choose, hempty, leastBy, hbest]
  exact leastBy_le (shortfallCost reference) (nearer_iff reference) hbest

/-- What is chosen of some candidates for a reference. -/
structure IsBest (candidates : Vector (Candidate ℝ) 8) (reference : RobotJoints ℝ)
    (best : Candidate ℝ) : Prop where
  mem : best ∈ candidates.toList
  /-- Where there are candidates within reach and limits, one of these that is closest to the
  reference, of equally close ones that of the smallest configuration. -/
  of_feasible : (∃ c ∈ candidates.toList, c.IsFeasible) → best.IsFeasible
    ∧ ∀ c ∈ candidates.toList, c.IsFeasible → selectionCost reference best ≤ selectionCost reference c
  /-- Where there are none, the candidate that lacks least. -/
  of_infeasible : (∀ c ∈ candidates.toList, ¬ c.IsFeasible) →
    ∀ c ∈ candidates.toList, shortfallCost reference best ≤ shortfallCost reference c

/-- **The chosen candidate costs least.** -/
theorem choose_isBest (candidates : Vector (Candidate ℝ) 8) (reference : RobotJoints ℝ) :
    IsBest candidates reference (choose candidates reference).1 where
  mem := choose_mem candidates reference
  of_feasible := by
    rintro ⟨c, hc, hreachable, hlimits⟩
    obtain ⟨best, -, hchoose, h1, h2, hle⟩ := choose_least hc hreachable hlimits reference
    rw [hchoose]
    exact ⟨⟨h1, h2⟩, fun d hd hfeasible => hle d hd hfeasible.1 hfeasible.2⟩
  of_infeasible hnone := (choose_nearest hnone reference).2

end Robot

end SixAxis
