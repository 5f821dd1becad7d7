import SixAxis.Proofs.SolverBranches

/-!
# Inverse kinematics in exact arithmetic

What the solver promises about an elbow arm with a spherical wrist, over the real numbers.

* `Robot.candidates_reach` — **soundness**: a candidate that the rods reach and that is not rounded
  to a singularity brings the tool centre point onto the target;
* `Robot.solution_optimal` — **automatic selection is complete and optimal**: if any joint values
  within limits reach the target, the solution is within limits, reaches it, and no such values are
  closer to the reference;
* `Robot.solution_posture` — **round trip**: solving the tool centre point of a posture for the
  configuration of its joint values gives these values back.
-/

namespace SixAxis

/-! ### The choices of a configuration -/

namespace Configuration

/-- Whether the wrist centre is behind axis one. -/
def behindAxisOne (i : Configuration) : Bool := 4 ≤ i.val

/-- Whether the wrist centre is behind the lower arm. -/
def behindLowerArm (i : Configuration) : Bool := 2 ≤ i.val % 4

/-- Whether the fifth axis is negative. -/
def fifthNegative (i : Configuration) : Bool := i.val % 2 = 1

theorem choices_configuration (a b c : Bool) :
    (configuration a b c).behindAxisOne = a ∧ (configuration a b c).behindLowerArm = b
      ∧ (configuration a b c).fifthNegative = c := by
  revert a b c
  decide

theorem configuration_choices (i : Configuration) :
    configuration i.behindAxisOne i.behindLowerArm i.fifthNegative = i := by
  revert i
  decide

end Configuration

/-! ### Joint vectors -/

namespace Joints

/-- The distance of two joint vectors. -/
noncomputable def distance {kind : JointKind} (a b : Joints kind ℝ) : ℝ :=
  Real.sqrt (∑ i, (a.get i - b.get i) ^ 2)

theorem distance_le {kind : JointKind} {a b c : Joints kind ℝ}
    (h : ∀ i, |a.get i - c.get i| ≤ |b.get i - c.get i|) : a.distance c ≤ b.distance c :=
  Real.sqrt_le_sqrt (Finset.sum_le_sum fun i _ => sq_le_sq.2 (h i))

end Joints

namespace Candidate

theorem distance_eq (c : Candidate ℝ) (reference : RobotJoints ℝ) :
    c.distance reference = c.joints.distance reference := by
  rw [distance, Joints.distance, Fin.sum_univ_six]
  simp [List.finRange_succ, sq]

/-- The joint values of a candidate, fitted one by one. -/
theorem ofRadians_get (r : Robot ℝ) (reference : RobotJoints ℝ) (i : Configuration)
    (radians : Vector ℝ 6) (reachable : Bool) (k : Joint) :
    (ofRadians r reference i radians reachable).joints.get k =
      fitAngle (Scalar.degrees (radians.get k)) (r.jointLimits.get k) (reference.get k) := by
  simp [Joints.get, ofRadians, Vector.get]
  rfl

end Candidate

namespace Robot

variable {r : Robot ℝ} {reference : RobotJoints ℝ} {target : Frame ℝ} {external : ExternalJoints ℝ}

/-- Whether joint values are within the limits of a robot. -/
def IsWithinLimits (r : Robot ℝ) (q : RobotJoints ℝ) : Prop :=
  ∀ i, (r.jointLimits.get i).contains (q.get i) = true

theorem all_internalFlags_iff (r : Robot ℝ) (q : RobotJoints ℝ) :
    (r.internalFlags q).toList.all id = true ↔ r.IsWithinLimits q := by
  rw [internalFlags, Vector.toList_ofFn, List.all_eq_true, List.forall_mem_ofFn_iff]
  rfl

/-! ### Candidates -/

theorem candidates_get (r : Robot ℝ) (reference : RobotJoints ℝ) (target : Frame ℝ)
    (i : Configuration) :
    (r.candidates reference target).get i =
      r.candidate reference target i.behindAxisOne i.behindLowerArm i.fifthNegative := by
  simp [candidates, Vector.get]
  rfl

theorem candidates_get_configuration (r : Robot ℝ) (reference : RobotJoints ℝ) (target : Frame ℝ)
    (behind below negative : Bool) :
    (r.candidates reference target).get (configuration behind below negative) =
      r.candidate reference target behind below negative := by
  obtain ⟨hbehind, hbelow, hnegative⟩ := Configuration.choices_configuration behind below negative
  rw [candidates_get, hbehind, hbelow, hnegative]

/-- Fitting changes the angles of a candidate by whole turns only. -/
theorem coe_angle_candidate (r : Robot ℝ) (reference : RobotJoints ℝ) (target : Frame ℝ)
    (behind below negative : Bool) (k : Joint) :
    (angle (r.candidate reference target behind below negative).joints k : Real.Angle) =
      (r.branchAngles reference target behind below negative).get k := by
  rw [candidate_eq, angle, Candidate.ofRadians_get]
  exact coe_radians_fitAngle _ _ _

theorem candidate_lastLink (h : r.IsExact) (reference : RobotJoints ℝ) (target : Frame ℝ)
    (behind below negative : Bool) :
    let wrist := r.wristTurns reference target behind below negative
    r.lastLink (r.candidate reference target behind below negative).joints =
      r.branchArm reference target behind below
        * r.wristTurn wrist.first wrist.second wrist.third := by
  intro wrist
  have hangle := coe_angle_candidate r reference target behind below negative
  rw [lastLink_eq h, armTurn_congr (hangle _) (hangle _) (hangle _),
    wristTurn_congr (hangle _) (hangle _) (hangle _)]
  rfl

/-- A branch that the solver does not round to a singularity and that the rods reach. -/
structure IsExactBranch (r : Robot ℝ) (reference : RobotJoints ℝ) (target : Frame ℝ)
    (behind below : Bool) : Prop where
  offset : r.horizontalOffset target = 0 ∨ epsilon ≤ r.horizontalOffset target
  reach : r.reach reference target behind = 0 ∨ epsilon ≤ r.reach reference target behind
  rods : r.IsWithinRods reference target behind
  sine : r.wristSine reference target behind below = 0
    ∨ epsilon ≤ r.wristSine reference target behind below

theorem candidate_reaches (h : r.IsElbowArm) (ht : target.IsOrthonormal)
    (external : ExternalJoints ℝ) {behind below : Bool}
    (hbranch : r.IsExactBranch reference (r.seenFromBase external target) behind below)
    (negative : Bool) :
    (r.posture (r.candidate reference (r.seenFromBase external target) behind below
      negative).joints external).tcp = target := by
  have hseen := seenFromBase_isOrthonormal r external ht
  rw [posture_tcp_eq_iff h.toIsExact, candidate_lastLink h.toIsExact]
  exact branchArm_mul_wristTurn h hseen hbranch.offset hbranch.reach hbranch.rods hbranch.sine
    negative

/-- Ahead, either elbow is an exact branch. -/
theorem isExactBranch_bentSeen (reference : RobotJoints ℝ) (below : Bool) :
    smallArm.IsExactBranch reference bentSeen false below where
  offset := Or.inr offset_bentSeen
  reach := by
    rw [reach_front_bentSeen]
    norm_num [epsilon]
  rods := by
    obtain ⟨hupper, hfore⟩ := smallArm_rods
    constructor
    · rw [reach_front_bentSeen, hupper, hfore]
      norm_num [abs_of_pos]
    · rw [reach_front_bentSeen, hupper, hfore]
      norm_num
  sine := by
    rw [wristSine_bentSeen]
    norm_num [epsilon]

theorem sin_bentWrist : epsilon ≤ |Real.sin (angle bentWrist Joint.fifth)| := by
  rw [angle_bentWrist.2.2.2.2.1, Real.sin_pi_div_two]
  norm_num [epsilon]

/-- **Soundness.** A candidate on a branch that is not rounded to a singularity and that the rods
reach brings the tool centre point onto the target. -/
theorem candidates_reach (h : r.IsElbowArm) (ht : target.IsOrthonormal)
    (external : ExternalJoints ℝ) (fixed : Option Configuration) (reference : RobotJoints ℝ)
    (i : Configuration)
    (hbranch : r.IsExactBranch reference (r.seenFromBase (r.resolve external target) target)
      i.behindAxisOne i.behindLowerArm) :
    let s := r.solution target external fixed reference
    (r.posture (s.candidates.get i).joints s.external).tcp = target := by
  intro s
  have hcandidate : s.candidates.get i = r.candidate reference
      (r.seenFromBase (r.resolve external target) target) i.behindAxisOne i.behindLowerArm
      i.fifthNegative := candidates_get _ _ _ _
  rw [hcandidate]
  exact candidate_reaches h ht _ hbranch _

/-- The small arm reaches where its bent wrist points. -/
theorem candidates_reach_bentTarget :
    smallArm.IsElbowArm ∧ bentTarget.IsOrthonormal
      ∧ smallArm.IsExactBranch bentWrist
        (smallArm.seenFromBase (smallArm.resolve default bentTarget) bentTarget)
        (configuration false true false).behindAxisOne
        (configuration false true false).behindLowerArm
      ∧ (smallArm.posture ((smallArm.solution bentTarget default none bentWrist).candidates.get
          (configuration false true false)).joints (smallArm.resolve default bentTarget)).tcp =
        bentTarget := by
  have hbranch := isExactBranch_bentSeen bentWrist true
  exact ⟨smallArm_isElbowArm, bentTarget_isOrthonormal, hbranch,
    candidates_reach smallArm_isElbowArm bentTarget_isOrthonormal default none bentWrist
      (configuration false true false) hbranch⟩

/-! ### Selection -/

/-- What the selection goes by: the distance from the reference, then the configuration. -/
noncomputable def selectionCost (reference : RobotJoints ℝ) (c : Candidate ℝ) :
    ℝ ×ₗ Configuration := toLex (c.distance reference, c.configuration)

theorem closer_iff (reference : RobotJoints ℝ) (a b : Candidate ℝ) :
    Candidate.closer reference a b = true ↔
      selectionCost reference a < selectionCost reference b := by
  rw [selectionCost, selectionCost, Prod.Lex.toLex_lt_toLex]
  by_cases hd : a.distance reference = b.distance reference
  · simp [Candidate.closer, hd]
  · simp [Candidate.closer, hd]

theorem distance_le_of_selectionCost_le {reference : RobotJoints ℝ} {a b : Candidate ℝ}
    (h : selectionCost reference a ≤ selectionCost reference b) :
    a.distance reference ≤ b.distance reference := by
  rw [selectionCost, selectionCost, Prod.Lex.toLex_le_toLex] at h
  rcases h with hlt | heq
  · exact hlt.le
  · exact heq.1.le

/-- If any candidate is within reach and limits, the one of these that costs least is chosen. -/
theorem choose_least {candidates : Vector (Candidate ℝ) 8} {c : Candidate ℝ}
    (hc : c ∈ candidates.toList) (hreachable : c.reachable = true) (hlimits : c.inLimits = true)
    (reference : RobotJoints ℝ) :
    ∃ best ∈ candidates.toList, choose candidates reference = (best, true)
      ∧ best.reachable = true ∧ best.inLimits = true
      ∧ ∀ d ∈ candidates.toList, d.reachable = true → d.inLimits = true →
        selectionCost reference best ≤ selectionCost reference d := by
  have hfeasible {d : Candidate ℝ} (hd : d ∈ candidates.toList) (h1 : d.reachable = true)
      (h2 : d.inLimits = true) :
      d ∈ candidates.toList.filter fun c => c.reachable && c.inLimits :=
    List.mem_filter.2 ⟨hd, by rw [h1, h2]; rfl⟩
  obtain ⟨best, hbest⟩ := exists_leastBy (Candidate.closer reference)
    (hfeasible hc hreachable hlimits)
  obtain ⟨hmem, hle⟩ := leastBy_le (selectionCost reference) (closer_iff reference) hbest
  obtain ⟨hin, hboth⟩ := List.mem_filter.1 hmem
  rw [Bool.and_eq_true] at hboth
  refine ⟨best, hin, ?_, hboth.1, hboth.2, fun d hd h1 h2 => hle d (hfeasible hd h1 h2)⟩
  rw [choose, hbest]

/-- If any candidate is within reach and limits, a closest one of these is chosen. -/
theorem choose_closest {candidates : Vector (Candidate ℝ) 8} {c : Candidate ℝ}
    (hc : c ∈ candidates.toList) (hreachable : c.reachable = true) (hlimits : c.inLimits = true)
    (reference : RobotJoints ℝ) :
    ∃ best ∈ candidates.toList, choose candidates reference = (best, true)
      ∧ best.reachable = true ∧ best.inLimits = true
      ∧ ∀ d ∈ candidates.toList, d.reachable = true → d.inLimits = true →
        best.distance reference ≤ d.distance reference := by
  obtain ⟨best, hmem, hchoose, h1, h2, hle⟩ := choose_least hc hreachable hlimits reference
  exact ⟨best, hmem, hchoose, h1, h2, fun d hd hd1 hd2 =>
    distance_le_of_selectionCost_le (hle d hd hd1 hd2)⟩

/-! ### Joint values and their candidates -/

theorem flags_candidate (r : Robot ℝ) (reference : RobotJoints ℝ) (target : Frame ℝ)
    (behind below negative : Bool) :
    (r.candidate reference target behind below negative).flags =
      r.internalFlags (r.candidate reference target behind below negative).joints := by
  rw [candidate_eq]
  rfl

theorem inLimits_candidate_iff (r : Robot ℝ) (reference : RobotJoints ℝ) (target : Frame ℝ)
    (behind below negative : Bool) :
    (r.candidate reference target behind below negative).inLimits = true ↔
      r.IsWithinLimits (r.candidate reference target behind below negative).joints := by
  rw [← all_internalFlags_iff, ← flags_candidate]
  rfl

/-- Limits above -900 and up to 900 degrees: two turns to either side of a normalized angle cover
them. -/
def HasLimitsInReach (r : Robot ℝ) : Prop :=
  ∀ i, -900 < (r.jointLimits.get i).low ∧ (r.jointLimits.get i).high ≤ 900

theorem smallArm_limits (i : Joint) :
    (smallArm.jointLimits.get i).low = -180 ∧ (smallArm.jointLimits.get i).high = 180 := by
  have hget : smallArm.jointLimits.get i = ⟨-180, 180, by norm_num⟩ := by
    simp [smallArm, Vector.get]
  rw [hget]
  exact ⟨rfl, rfl⟩

theorem smallArm_hasLimitsInReach : smallArm.HasLimitsInReach := by
  intro i
  rw [(smallArm_limits i).1, (smallArm_limits i).2]
  norm_num

theorem bentWrist_isWithinLimits : smallArm.IsWithinLimits bentWrist := by
  intro i
  obtain ⟨hlow, hhigh⟩ := smallArm_limits i
  have hvalue : bentWrist.get i = 0 ∨ bentWrist.get i = 90 := by
    match i with
    | 0 | 1 | 2 | 5 => exact Or.inl rfl
    | 3 | 4 => exact Or.inr rfl
  rw [Interval.contains, hlow, hhigh]
  rcases hvalue with h | h <;> rw [h] <;> norm_num

/-- Whether the cosine at the shoulder says that the rods reach, on the branch that joint values
tell. -/
theorem reachable_of_rods (h : r.IsElbowArm) {behind : Bool}
    (hreach : epsilon ≤ r.reach reference target behind)
    (hrods : r.IsWithinRods reference target behind) :
    ArmPlane.isReachable (r.elbowCosine reference target behind) = true := by
  have hle := ArmPlane.abs_shoulderCosine_le (upperArm_length_ne h) hreach hrods.far hrods.near
  rw [ArmPlane.isReachable, decide_eq_true_eq, Scalar.literal_one]
  refine hle.trans ?_
  norm_num [reachTolerance]

/-- The candidate of joint values that reach the target: within reach and limits, and no joint value
of it is farther from the reference. -/
theorem candidate_of_reach (h : r.IsElbowArm) (hrange : r.HasLimitsInReach) {q : RobotJoints ℝ}
    (hq : r.lastLink q = r.toTarget target) (hlimits : r.IsWithinLimits q)
    (hoffset : epsilon ≤ r.horizontalOffset target)
    (hreach : epsilon ≤ r.reach reference target (decide (r.IsBehindAxisOne q)))
    (hsine : epsilon ≤ |Real.sin (angle q Joint.fifth)|) :
    let c := r.candidate reference target (decide (r.IsBehindAxisOne q))
      (decide (r.IsBehindLowerArm q)) (decide (IsFifthNegative q))
    c.reachable = true ∧ c.inLimits = true
      ∧ c.joints.distance reference ≤ q.distance reference := by
  intro c
  have hturns (i : Joint) := exists_turns_of_coe_eq
    (coe_angle_eq_branchAngles h hq hoffset hreach hsine i)
  have hfit (i : Joint) : (r.jointLimits.get i).contains (c.joints.get i) = true
      ∧ |c.joints.get i - reference.get i| ≤ |q.get i - reference.get i| := by
    obtain ⟨k, hk⟩ := hturns i
    simp only [c, candidate_eq, Candidate.ofRadians_get]
    exact fitAngle_closest (hrange i).1 (hrange i).2 (hlimits i) hk _
  refine ⟨?_, ?_, Joints.distance_le fun i => (hfit i).2⟩
  · simp only [c, candidate_eq]
    exact reachable_of_rods h hreach (isWithinRods_of_reach h hq hoffset reference)
  · exact (inLimits_candidate_iff _ _ _ _ _ _).2 fun i => (hfit i).1

theorem mem_candidates_iff (r : Robot ℝ) (reference : RobotJoints ℝ) (target : Frame ℝ)
    (c : Candidate ℝ) :
    c ∈ (r.candidates reference target).toList ↔
      ∃ behind below negative, c = r.candidate reference target behind below negative := by
  rw [candidates, Vector.toList_ofFn, List.mem_ofFn]
  constructor
  · rintro ⟨i, rfl⟩
    exact ⟨_, _, _, rfl⟩
  · rintro ⟨behind, below, negative, rfl⟩
    have hget := candidates_get_configuration r reference target behind below negative
    rw [candidates_get] at hget
    exact ⟨configuration behind below negative, hget⟩

/-! ### Automatic selection -/

/-- A target away from the singularities of both branches of joint one, and from the cosines that
the tolerance counts as within reach. -/
structure IsRegularFor (r : Robot ℝ) (reference : RobotJoints ℝ) (target : Frame ℝ) : Prop where
  offset : epsilon ≤ r.horizontalOffset target
  reach : ∀ behind, epsilon ≤ r.reach reference target behind
  cosine : ∀ behind, ¬ (1 < |r.elbowCosine reference target behind|
    ∧ |r.elbowCosine reference target behind| ≤ 1 + reachTolerance)
  sine : ∀ behind below, ArmPlane.isReachable (r.elbowCosine reference target behind) = true →
    epsilon ≤ r.wristSine reference target behind below

/-- Away from singularities, candidates within reach are on exact branches. -/
theorem IsRegularFor.isExactBranch (h : r.IsElbowArm) (hregular : r.IsRegularFor reference target)
    {behind : Bool} (hreachable :
      ArmPlane.isReachable (r.elbowCosine reference target behind) = true) (below : Bool) :
    r.IsExactBranch reference target behind below := by
  have hle := hreachable
  rw [ArmPlane.isReachable, decide_eq_true_eq, Scalar.literal_one] at hle
  have hone : |r.elbowCosine reference target behind| ≤ 1 :=
    not_lt.1 fun hlt => hregular.cosine behind ⟨hlt, hle⟩
  obtain ⟨hnear, hfar⟩ := ArmPlane.rods_of_abs_shoulderCosine_le (upperArm_length_ne h)
    (hregular.reach behind) hone
  exact ⟨Or.inr hregular.offset, Or.inr (hregular.reach behind), ⟨hnear, hfar⟩,
    Or.inr (hregular.sine behind below hreachable)⟩

/-- Away from singularities, joint values within limits that reach a target have a candidate that is
no farther from the reference. -/
theorem IsRegularFor.exists_candidate (h : r.IsElbowArm) (hrange : r.HasLimitsInReach)
    (hregular : r.IsRegularFor reference (r.seenFromBase external target)) {q : RobotJoints ℝ}
    (hlimits : r.IsWithinLimits q) (hq : (r.posture q external).tcp = target) :
    ∃ c ∈ (r.candidates reference (r.seenFromBase external target)).toList,
      c.reachable = true ∧ c.inLimits = true
        ∧ c.joints.distance reference ≤ q.distance reference := by
  have hlast := (posture_tcp_eq_iff h.toIsExact q external target).1 hq
  have hreach := hregular.reach (decide (r.IsBehindAxisOne q))
  have hrods := isWithinRods_of_reach h hlast hregular.offset reference
  have hsine := hregular.sine _ (decide (r.IsBehindLowerArm q)) (reachable_of_rods h hreach hrods)
  rw [wristSine_of_reach h hlast hregular.offset hreach] at hsine
  exact ⟨_, (mem_candidates_iff _ _ _ _).2 ⟨_, _, _, rfl⟩,
    candidate_of_reach h hrange hlast hlimits hregular.offset hreach hsine⟩

theorem internalReports_of_isWithinLimits {q : RobotJoints ℝ} (hq : r.IsWithinLimits q) :
    internalReports (r.internalFlags q) = [] := by
  have hflag (i : Fin 6) : (r.internalFlags q).get i = true := by
    have hget : (r.internalFlags q).get i = (r.jointLimits.get i).contains (q.get i) := by
      simp [internalFlags, Vector.get]
      rfl
    rw [hget, hq i]
  simp [internalReports, hflag]

/-- Only external axes are reported when a candidate is chosen that is within reach and limits. -/
theorem reports_of_chosen {fixed : Option Configuration}
    (hfound : fixed.isSome = true ∨
      (choose (r.candidates reference (r.seenFromBase (r.resolve external target) target))
        reference).2 = true)
    (hreachable : (r.solution target external fixed reference).chosen.reachable = true)
    (hflags : internalReports (r.solution target external fixed reference).chosen.flags = []) :
    (r.solution target external fixed reference).reports =
      externalReports (r.misfits (r.resolve external target) false) := by
  cases fixed with
  | none =>
    have hchoose := hfound.resolve_left Bool.false_ne_true
    simp only [solution, seenFromBase] at hchoose hreachable hflags ⊢
    rw [hchoose, hreachable, hflags]
    rfl
  | some i =>
    simp only [solution] at hreachable hflags ⊢
    rw [hreachable, hflags]
    rfl

/-- **Automatic selection is complete and optimal.** Away from singularities, if any joint values
within limits reach the target, the solution is within limits, reaches it and is as close to the
reference as any that do, and nothing is reported of the arm. -/
theorem solution_optimal (h : r.IsElbowArm) (hrange : r.HasLimitsInReach)
    (ht : target.IsOrthonormal) (external : ExternalJoints ℝ) (reference : RobotJoints ℝ)
    (hregular : r.IsRegularFor reference (r.seenFromBase (r.resolve external target) target))
    (hexists : ∃ q, r.IsWithinLimits q ∧ (r.posture q (r.resolve external target)).tcp = target) :
    let s := r.solution target external none reference
    r.IsWithinLimits s.joints ∧ (r.posture s.joints s.external).tcp = target
      ∧ (∀ q, r.IsWithinLimits q → (r.posture q s.external).tcp = target →
        s.joints.distance reference ≤ q.distance reference)
      ∧ s.reports = externalReports (r.misfits s.external false) := by
  intro s
  set resolved := r.resolve external target
  obtain ⟨q, hlimits, hq⟩ := hexists
  obtain ⟨c, hc, hreachable, hin, -⟩ := hregular.exists_candidate h hrange hlimits hq
  obtain ⟨best, hbest, hchoose, hbest₁, hbest₂, hclosest⟩ :=
    choose_closest hc hreachable hin reference
  have hs : s.chosen = best := congrArg Prod.fst hchoose
  have hjoints : s.joints = best.joints := congrArg Candidate.joints hs
  obtain ⟨behind, below, negative, hbranch⟩ := (mem_candidates_iff _ _ _ _).1 hbest
  have hwithin : r.IsWithinLimits best.joints := by
    rw [hbranch] at hbest₂ ⊢
    exact (inLimits_candidate_iff _ _ _ _ _ _).1 hbest₂
  rw [hjoints]
  refine ⟨hwithin, ?_, fun q' hlimits' hq' => ?_, ?_⟩
  · rw [hbranch, candidate_eq] at hbest₁
    rw [hbranch]
    exact candidate_reaches h ht resolved (hregular.isExactBranch h hbest₁ below) negative
  · obtain ⟨c', hc', hreachable', hin', hle⟩ := hregular.exists_candidate h hrange hlimits' hq'
    have hleast := hclosest c' hc' hreachable' hin'
    rw [Candidate.distance_eq, Candidate.distance_eq] at hleast
    exact hleast.trans hle
  · refine reports_of_chosen (Or.inr (congrArg Prod.snd hchoose)) ?_ ?_
    · rw [hs, hbest₁]
    · rw [hs, hbranch, flags_candidate, ← hbranch, internalReports_of_isWithinLimits hwithin]

/-- The target of the bent wrist is regular for every reference. -/
theorem isRegularFor_bentSeen (reference : RobotJoints ℝ) :
    smallArm.IsRegularFor reference bentSeen where
  offset := offset_bentSeen
  reach behind := by
    cases behind with
    | false =>
      rw [reach_front_bentSeen]
      norm_num [epsilon]
    | true =>
      rw [reach_behind_bentSeen]
      norm_num [epsilon]
  cosine behind := by
    obtain ⟨hfront, hbehind⟩ := elbowCosine_bentSeen reference
    cases behind with
    | false =>
      rw [hfront]
      norm_num [abs_of_pos]
    | true =>
      rw [hbehind]
      norm_num [abs_of_pos, reachTolerance]
  sine behind below hreachable := by
    cases behind with
    | false =>
      rw [wristSine_bentSeen]
      norm_num [epsilon]
    | true =>
      rw [(elbowCosine_bentSeen reference).2] at hreachable
      norm_num [ArmPlane.isReachable, abs_of_pos, reachTolerance] at hreachable

/-- The small arm finds values for the target of its bent wrist. -/
theorem solution_optimal_bentTarget :
    let s := smallArm.solution bentTarget default none bentWrist
    smallArm.IsWithinLimits s.joints ∧ (smallArm.posture s.joints s.external).tcp = bentTarget
      ∧ (∀ q, smallArm.IsWithinLimits q → (smallArm.posture q s.external).tcp = bentTarget →
        s.joints.distance bentWrist ≤ q.distance bentWrist)
      ∧ s.reports = externalReports (smallArm.misfits s.external false) :=
  solution_optimal smallArm_isElbowArm smallArm_hasLimitsInReach bentTarget_isOrthonormal default
    bentWrist (isRegularFor_bentSeen bentWrist) ⟨bentWrist, bentWrist_isWithinLimits, rfl⟩

/-! ### Round trip -/

/-- A slot with a value keeps it when the external axes are resolved. -/
theorem resolve_get (r : Robot ℝ) (external : ExternalJoints ℝ) (target : Frame ℝ) (i : Fin 6)
    (hi : external.isDefined i = true) : (r.resolve external target).get i = external.get i := by
  rw [resolve]
  induction r.axes generalizing external with
  | nil => rfl
  | cons a rest ih =>
    rw [List.foldl_cons]
    by_cases ha : external.isDefined a.slot = true
    · rw [if_pos ha]
      exact ih external hi
    · have hne : i ≠ a.slot := by
        rintro rfl
        exact ha hi
      have hget : (external.set a.slot (defaultValue a target)).get i = external.get i := by
        rw [Joints.get_set, if_neg hne]
      have hdefined : (external.set a.slot (defaultValue a target)).isDefined i = true := by
        rw [Joints.isDefined, hget]
        exact hi
      rw [if_neg ha, ih _ hdefined, hget]

/-- The base is where the given values of the external axes put it, if they give one for the axis
that carries the robot. -/
theorem baseChange_resolve (r : Robot ℝ) (external : ExternalJoints ℝ) (target : Frame ℝ)
    (hcarrier : ∀ a, r.carrier = some a → external.isDefined a.slot = true) :
    r.baseChange (r.resolve external target) = r.baseChange external := by
  rw [baseChange, baseChange]
  cases ha : r.carrier with
  | none => rfl
  | some a =>
    have hget := resolve_get r external target a.slot (hcarrier a ha)
    have hvalue : (r.resolve external target).valueOrZero a.slot = external.valueOrZero a.slot := by
      rw [Joints.valueOrZero, Joints.isDefined, hget]
      rfl
    show a.axis.motionAt _ = a.axis.motionAt _
    rw [hvalue]

/-- Joint values within limits that are less than half a turn from the reference are those of their
candidate. -/
theorem candidate_joints_of_near (h : r.IsElbowArm) (hrange : r.HasLimitsInReach)
    {q : RobotJoints ℝ} (hq : r.lastLink q = r.toTarget target) (hlimits : r.IsWithinLimits q)
    (hoffset : epsilon ≤ r.horizontalOffset target)
    (hreach : epsilon ≤ r.reach reference target (decide (r.IsBehindAxisOne q)))
    (hsine : epsilon ≤ |Real.sin (angle q Joint.fifth)|)
    (hnear : ∀ i, |q.get i - reference.get i| < 180) :
    (r.candidate reference target (decide (r.IsBehindAxisOne q)) (decide (r.IsBehindLowerArm q))
      (decide (IsFifthNegative q))).joints = q := by
  refine Joints.ext_get fun i => ?_
  obtain ⟨k, hk⟩ := exists_turns_of_coe_eq
    (coe_angle_eq_branchAngles h hq hoffset hreach hsine i)
  rw [candidate_eq, Candidate.ofRadians_get]
  exact fitAngle_eq_of_near (hrange i).1 (hrange i).2 (hlimits i) hk (hnear i)

/-- **Round trip.** Solving the tool centre point of a posture for the configuration of its joint
values gives these values back, for every reference less than half a turn from them. -/
theorem solution_posture (h : r.IsElbowArm) (hrange : r.HasLimitsInReach) {q : RobotJoints ℝ}
    (hlimits : r.IsWithinLimits q) (external : ExternalJoints ℝ)
    (hcarrier : ∀ a, r.carrier = some a → external.isDefined a.slot = true)
    (hoffset : epsilon ≤ (ArmPlane.partAcross (r.axisOf Joint.first)
      (r.originAt q Joint.fifth - r.originOf Joint.first)).length)
    (hreach : epsilon ≤ (ArmPlane.partAcross (r.axisOf Joint.second)
      (r.originBack q Joint.fifth - r.originOf Joint.second)).length)
    (hsine : epsilon ≤ |Real.sin (angle q Joint.fifth)|)
    (reference : RobotJoints ℝ) (hnear : ∀ i, |q.get i - reference.get i| < 180) :
    let s := r.solution (r.posture q external).tcp external (some (r.configurationOf q)) reference
    s.joints = q ∧ s.chosen.configuration = r.configurationOf q ∧ s.chosen.reachable = true
      ∧ s.reports = externalReports (r.misfits s.external false) := by
  intro s
  set target := (r.posture q external).tcp with htarget
  have hbase := baseChange_resolve r external target hcarrier
  have hlast := (posture_tcp_eq_iff h.toIsExact q external target).1 htarget.symm
  set seen := r.seenFromBase external target
  have hcenter := originAt_fifth_of_reach h hlast
  have hoffset' : epsilon ≤ r.horizontalOffset seen := by
    rwa [horizontalOffset, ← hcenter]
  have hreach' : epsilon ≤ r.reach reference seen (decide (r.IsBehindAxisOne q)) := by
    rwa [Robot.reach, Flat.length_eq_norm, toComplex_reached_of_reach h hlast hoffset',
      norm_steepOf h]
  have hchosen : s.chosen = r.candidate reference seen (decide (r.IsBehindAxisOne q))
      (decide (r.IsBehindLowerArm q)) (decide (IsFifthNegative q)) := by
    rw [← candidates_get_configuration]
    show (r.candidates reference
      (target.moved (r.baseChange (r.resolve external target)).inverse)).get
        (r.configurationOf q) = _
    rw [hbase]
    rfl
  obtain ⟨hreachable, -, -⟩ := candidate_of_reach h hrange hlast hlimits hoffset' hreach' hsine
  have hjoints := candidate_joints_of_near h hrange hlast hlimits hoffset' hreach' hsine hnear
  refine ⟨?_, ?_, ?_, ?_⟩
  · rw [Solution.joints, hchosen, hjoints]
  · rw [hchosen, candidate_eq]
    rfl
  · rw [hchosen, hreachable]
  · refine reports_of_chosen (Or.inl rfl) ?_ ?_
    · rw [hchosen, hreachable]
    · rw [hchosen, flags_candidate, hjoints, internalReports_of_isWithinLimits hlimits]

/-- The values of the bent wrist come back. -/
theorem solution_posture_bentWrist :
    let s := smallArm.solution bentTarget default (some (smallArm.configurationOf bentWrist))
      bentWrist
    s.joints = bentWrist ∧ s.chosen.configuration = smallArm.configurationOf bentWrist
      ∧ s.chosen.reachable = true
      ∧ s.reports = externalReports (smallArm.misfits s.external false) := by
  refine solution_posture smallArm_isElbowArm smallArm_hasLimitsInReach bentWrist_isWithinLimits
    default ?_ ?_ ?_ sin_bentWrist bentWrist fun i => ?_
  · intro a ha
    cases ha
  · rw [smallArm_offset]
    norm_num [epsilon]
  · rw [smallArm_reach]
    norm_num [epsilon]
  · rw [sub_self, abs_zero]
    norm_num

end Robot

end SixAxis
