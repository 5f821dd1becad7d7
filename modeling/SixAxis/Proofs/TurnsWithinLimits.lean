import SixAxis.Proofs.InverseKinematics
import SixAxis.Proofs.SolvedTargets

/-!
# Turns within limits

A joint value is called out of its limits where fitting does not bring it within them.  Fitting
tries five angles of the same position, those above -900 and up to 900 degrees, so it is right about
limits in that range and blind to the turns beyond it: a value of 10 degrees is called out of limits
from 1000 to 1300 degrees, although three turns more are within them.

* `contains_fitAngle_iff` — what fitting returns is within limits if something that it tries is, in
  any arithmetic;
* `Interval.FitsTurned`, `Interval.FitsTurnedIn` — whether any number of turns brings a value within
  limits, and whether one does that leads to a value in a range;
* `Robot.flag_eq_false_iff` — **the flag of a joint value**, for every candidate of every target.
-/

namespace SixAxis

/-- What fitting returns is within limits exactly if the normalized angle or one of its turns is. -/
theorem contains_fitAngle_iff {R : Type} [Scalar R] (v : R) (limits : Interval R) (reference : R) :
    limits.contains (fitAngle v limits reference) = true ↔
      limits.contains (normalizeAngle v) = true ∨
        ∃ x ∈ (turns.map fun k => normalizeAngle v + k * 360.0), limits.contains x = true := by
  rw [fitAngle]
  set options := turns.map fun k => normalizeAngle v + k * 360.0 with hoptions
  cases hleast : leastBy (fun a b => pairBefore (Scalar.abs (a - reference), Scalar.abs a)
      (Scalar.abs (b - reference), Scalar.abs b)) (options.filter limits.contains) with
  | none =>
    have hnone := List.filter_eq_nil_iff.1 (leastBy_eq_none hleast)
    rw [Option.getD_none]
    constructor
    · exact Or.inl
    · rintro (hwrapped | ⟨x, hx, hin⟩)
      · exact hwrapped
      · exact absurd hin (hnone x hx)
  | some best =>
    obtain ⟨hmem, hin⟩ := List.mem_filter.1 (mem_of_leastBy hleast)
    rw [Option.getD_some]
    exact ⟨fun _ => Or.inr ⟨best, hmem, hin⟩, fun _ => hin⟩

/-- Whether a value moved by some number of whole turns is within limits. -/
def Interval.FitsTurned (limits : Interval ℝ) (v : ℝ) : Prop :=
  ∃ n, limits.contains (turned v n) = true

/-- The same with the turned value in a range. -/
def Interval.FitsTurnedIn (limits : Interval ℝ) (range : Set ℝ) (v : ℝ) : Prop :=
  ∃ n, turned v n ∈ range ∧ limits.contains (turned v n) = true

namespace Interval

variable {limits : Interval ℝ} {range : Set ℝ} {v w : ℝ}

theorem contains_iff_mem_Icc : limits.contains v = true ↔ v ∈ Set.Icc limits.low limits.high := by
  rw [contains, Bool.and_eq_true, decide_eq_true_eq, decide_eq_true_eq, Set.mem_Icc]

/-- Angles of the same position fit together. -/
theorem fitsTurnedIn_congr {k : ℤ} (h : w = v + k * 360) :
    limits.FitsTurnedIn range w ↔ limits.FitsTurnedIn range v := by
  have hturn (n : ℤ) : turned w n = turned v (k + n) := by
    rw [turned, turned, h]
    push_cast
    ring
  constructor
  · rintro ⟨n, hn⟩
    exact ⟨k + n, by rwa [← hturn]⟩
  · rintro ⟨n, hn⟩
    refine ⟨n - k, ?_⟩
    rwa [hturn, add_sub_cancel]

/-- If the limits are in the range, no turn is missed. -/
theorem fitsTurnedIn_iff (h : Set.Icc limits.low limits.high ⊆ range) :
    limits.FitsTurnedIn range v ↔ limits.FitsTurned v := by
  constructor
  · rintro ⟨n, -, hn⟩
    exact ⟨n, hn⟩
  · rintro ⟨n, hn⟩
    exact ⟨n, h (contains_iff_mem_Icc.1 hn), hn⟩

end Interval

/-- Fitting succeeds exactly where a turn above -900 and up to 900 degrees is within limits. -/
theorem contains_fitAngle_iff_fitsTurnedIn (v : ℝ) (limits : Interval ℝ) (reference : ℝ) :
    limits.contains (fitAngle v limits reference) = true ↔
      limits.FitsTurnedIn (Set.Ioc (-900) 900) v := by
  rw [contains_fitAngle_iff]
  simp only [Scalar.literal_turn, mem_map_turns_iff]
  constructor
  · rintro (hwrapped | ⟨x, ⟨⟨n, rfl⟩, hreach⟩, hin⟩)
    · obtain ⟨n, hn⟩ := normalizeAngle_eq_add_turns v
      have hmem := normalizeAngle_mem v
      rw [hn] at hwrapped hmem
      exact ⟨n, ⟨by rw [turned]; linarith, by rw [turned]; linarith⟩, hwrapped⟩
    · exact ⟨n, hreach, hin⟩
  · rintro ⟨n, hreach, hin⟩
    exact Or.inr ⟨_, ⟨⟨n, rfl⟩, hreach⟩, hin⟩

namespace Robot

/-- The flags of a candidate, whose values are fitted. -/
theorem get_flags_candidate (r : Robot ℝ) (reference : RobotJoints ℝ) (target : Frame ℝ)
    (i : Configuration) (k : Joint) :
    let c := (r.candidates reference target).get i
    c.flags.get k = true ↔
      (r.jointLimits.get k).FitsTurnedIn (Set.Ioc (-900) 900) (c.joints.get k) := by
  intro c
  set θ := Scalar.degrees ((r.branchAngles reference target i.behindAxisOne i.behindLowerArm
    i.fifthNegative).get k) with hθ
  have hvalue : c.joints.get k = fitAngle θ (r.jointLimits.get k) (reference.get k) := by
    simp only [c, candidates_get, candidate_eq, Candidate.ofRadians_get, hθ]
  have hflags : c.flags = r.internalFlags c.joints := by
    simp only [c, candidates_get, flags_candidate]
  -- The flag is that of the fitted value; it is the same for the value that was fitted.
  obtain ⟨n, hn⟩ := fitAngle_eq_add_turns θ (r.jointLimits.get k) (reference.get k)
  rw [hflags, get_internalFlags, hvalue, Interval.fitsTurnedIn_congr hn]
  exact contains_fitAngle_iff_fitsTurnedIn _ _ _

/-- **The flag of a joint value.**  It is not set exactly if no turned value above -900 and up to
900 degrees is within the limits of the joint; where the limits stay in that range, exactly if no
turned value at all is. -/
theorem flag_eq_false_iff (r : Robot ℝ) (target : Frame ℝ) (external : ExternalJoints ℝ)
    (fixed : Option Configuration) (reference : RobotJoints ℝ) (i : Configuration) (k : Joint) :
    let c := (r.solution target external fixed reference).candidates.get i
    let limits := r.jointLimits.get k
    (c.flags.get k = false ↔ ¬ limits.FitsTurnedIn (Set.Ioc (-900) 900) (c.joints.get k))
      ∧ (Set.Icc limits.low limits.high ⊆ Set.Ioc (-900) 900 →
        (c.flags.get k = false ↔ ¬ limits.FitsTurned (c.joints.get k))) := by
  intro c limits
  have hflag : c.flags.get k = false ↔
      ¬ limits.FitsTurnedIn (Set.Ioc (-900) 900) (c.joints.get k) := by
    rw [← Bool.not_eq_true]
    exact not_congr (get_flags_candidate r reference _ i k)
  refine ⟨hflag, fun hrange => ?_⟩
  rw [hflag, Interval.fitsTurnedIn_iff hrange]

/-- The limits of the small arm are in the range that fitting covers. -/
theorem flag_eq_false_iff_smallArm :
    Set.Icc (smallArm.jointLimits.get Joint.sixth).low (smallArm.jointLimits.get Joint.sixth).high
        ⊆ Set.Ioc (-900) 900
      ∧ (((smallArm.solution bentTarget default none bentWrist).candidates.get 0).flags.get
            Joint.sixth = false ↔
          ¬ (smallArm.jointLimits.get Joint.sixth).FitsTurned
            (((smallArm.solution bentTarget default none bentWrist).candidates.get 0).joints.get
              Joint.sixth)) := by
  have hrange : Set.Icc (smallArm.jointLimits.get Joint.sixth).low
      (smallArm.jointLimits.get Joint.sixth).high ⊆ Set.Ioc (-900) 900 := by
    rw [(smallArm_limits Joint.sixth).1, (smallArm_limits Joint.sixth).2]
    intro x hx
    exact ⟨by linarith [hx.1], by linarith [hx.2]⟩
  exact ⟨hrange, (flag_eq_false_iff smallArm bentTarget default none bentWrist 0 Joint.sixth).2
    hrange⟩

end Robot

end SixAxis
