import SixAxis.Proofs.InverseKinematics
import SixAxis.Proofs.PosedMeshes

/-!
# Chains of any length by turns at home

Forward kinematics carries each joint along by the joints before it and turns about the axis where
it has come to be, so every link puts a turn in front of the links before it.  The solver multiplies
turns about the axes at home, each behind those before it.  Both are the same motion, for every
number of joints and of values, and also where one of the lists is longer than the other.

* `chainFrom_getElem?` — **a link is the product of the turns at home** up to its own;
* `frame_moved_mul_turnAbout` — a joint turns about its own axis, so that it leaves origin and axis
  of its frame where the joints before it have put them;
* `chain?_followsHomeTurns` — all that is promised of a chain.
-/

namespace SixAxis

variable {m : Motion ℝ} {frames : List (Frame ℝ)} {values : List ℝ} {k : ℕ}

/-! ### Products of turns -/

/-- The turns of the joints about their axes at home, one for each joint that has both a frame and a
value in degrees. -/
noncomputable def homeTurns (frames : List (Frame ℝ)) (values : List ℝ) : List (Motion ℝ) :=
  frames.zipWith (fun f v => Motion.rotation f.zaxis (Scalar.radians v) f.point) values

theorem homeTurns_eq_map (frames : List (Frame ℝ)) (values : List ℝ) :
    homeTurns frames values = (frames.zip values).map fun x => turnAbout x.1 x.2 := by
  rw [homeTurns, List.zip, List.map_zipWith]
  rfl

theorem take_homeTurns (frames : List (Frame ℝ)) (values : List ℝ) (k : ℕ) :
    (homeTurns frames values).take k = homeTurns (frames.take k) (values.take k) :=
  List.take_zipWith

/-- The products of turns behind a motion, one by one. -/
theorem productsFrom_getElem? (m : Motion ℝ) (l : List (Frame ℝ × ℝ)) (hk : k < l.length) :
    (productsFrom m l)[k]? =
      some (m * ((l.map fun x => turnAbout x.1 x.2).take (k + 1)).prod) := by
  induction l generalizing m k with
  | nil => exact absurd hk (Nat.not_lt_zero k)
  | cons x rest ih =>
    cases k with
    | zero => simp [productsFrom]
    | succ j =>
      rw [productsFrom, List.getElem?_cons_succ, ih _ (Nat.lt_of_succ_lt_succ hk), List.map_cons,
        List.take_succ_cons, List.prod_cons, mul_assoc]

theorem length_chain (frames : List (Frame ℝ)) (values : List ℝ) :
    (chain frames values).length = min frames.length values.length := by
  rw [chain, length_chainFrom, List.length_zip]

/-- **A link is the product of the turns at home** up to its own. -/
theorem chain_getElem? (h : ∀ f ∈ frames, f.IsOrthonormal)
    (hk : k < (chain frames values).length) :
    (chain frames values)[k]? = some ((homeTurns frames values).take (k + 1)).prod := by
  have hlength : k < (frames.zip values).length := by
    rwa [length_chain, ← List.length_zip] at hk
  rw [chain, Motion.identity_eq_one,
    chainFrom_eq_productsFrom Motion.IsRigid.one (isOrthonormal_of_mem_zip_left h values),
    productsFrom_getElem? _ _ hlength, one_mul, homeTurns_eq_map]

/-- Turns at home are rigid, and so are their products. -/
theorem homeTurns_prod_isRigid (h : ∀ f ∈ frames, f.IsOrthonormal) (values : List ℝ) :
    (homeTurns frames values).prod.IsRigid := by
  have hturns : ∀ turn ∈ homeTurns frames values, turn.IsRigid := by
    rw [homeTurns_eq_map]
    intro turn hturn
    obtain ⟨x, hx, rfl⟩ := List.mem_map.1 hturn
    exact turnAbout_isRigid (isOrthonormal_of_mem_zip_left h values x hx) x.2
  exact List.prod_induction _ (fun _ _ hf hg => hf.mul hg) Motion.IsRigid.one hturns

/-! ### A joint on its own axis -/

/-- A joint leaves the origin and the axis of its frame where the joints before it have put them. -/
theorem frame_moved_mul_turnAbout (hm : m.IsRigid) {f : Frame ℝ} (hf : f.IsOrthonormal) (v : ℝ) :
    (f.moved (m * turnAbout f v)).point = (f.moved m).point
      ∧ (f.moved (m * turnAbout f v)).zaxis = (f.moved m).zaxis := by
  have hturn := turnAbout_isRigid hf v
  have hpoint : (turnAbout f v).apply f.point = f.point := Motion.rotation_apply_center _ _ _
  have haxis : (turnAbout f v).linear f.zaxis = f.zaxis :=
    Motion.rotation_linear_axis hf.zaxis_unit _ _
  constructor
  · show (m * turnAbout f v).apply f.point = m.apply f.point
    rw [Motion.mul_apply, hpoint]
  · rw [Frame.zaxis_moved (hm.mul hturn), Frame.zaxis_moved hm, Motion.mul_linear, haxis]

/-- The origin and the axis of a joint by the values of the joints before it. -/
theorem frame_moved_chain (h : ∀ f ∈ frames, f.IsOrthonormal) {f : Frame ℝ} {link : Motion ℝ}
    (hf : frames[k]? = some f) (hlink : (chain frames values)[k]? = some link) :
    let before := (homeTurns (frames.take k) (values.take k)).prod
    (f.moved link).point = (f.moved before).point
      ∧ (f.moved link).zaxis = (f.moved before).zaxis := by
  intro before
  have hk := (List.getElem?_eq_some_iff.1 hlink).1
  have hvalues : k < values.length := by
    rw [length_chain] at hk
    exact hk.trans_le (min_le_right _ _)
  have hturn : (homeTurns frames values)[k]? = some (turnAbout f values[k]) := by
    rw [homeTurns, List.getElem?_zipWith, hf, List.getElem?_eq_getElem hvalues]
    rfl
  have hproduct : link = before * turnAbout f values[k] := by
    rw [chain_getElem? h hk, Option.some.injEq] at hlink
    rw [← hlink, List.take_add_one, List.prod_append, hturn, take_homeTurns]
    exact congrArg _ (List.prod_singleton)
  have hbefore : before.IsRigid :=
    homeTurns_prod_isRigid (fun g hg => h g (List.mem_of_mem_take hg)) _
  rw [hproduct]
  exact frame_moved_mul_turnAbout hbefore (h f (List.mem_of_getElem? hf)) _

/-! ### Chains and the solver -/

/-- The third link of the arm of a robot, for the joint values of a candidate, is the product of
turns that the solver has gone on with. -/
theorem thirdLink_candidate {r : Robot ℝ} (h : ∀ f ∈ r.jointFrames.toList, f.IsOrthonormal)
    (reference : RobotJoints ℝ) (target : Frame ℝ) (behind below negative : Bool) :
    (chain r.jointFrames.toList
        (r.candidate reference target behind below negative).joints.toList)[2]? =
      some (r.branchArm reference target behind below) := by
  set q := (r.candidate reference target behind below negative).joints with hq
  have hangle := Robot.coe_angle_candidate r reference target behind below negative
  have hturns : ((homeTurns r.jointFrames.toList q.toList).take 3).prod =
      r.armTurn (Robot.angle q Joint.first) (Robot.angle q Joint.second)
        (Robot.angle q Joint.third) := by
    rw [Joints.toList, toList_six, toList_six, Robot.armTurn, mul_assoc]
    simp only [homeTurns, List.zipWith_cons_cons, List.take_succ_cons, List.take_zero,
      List.prod_cons, List.prod_nil, mul_one]
    rfl
  rw [chain_getElem? h (Nat.lt_of_lt_of_eq (by decide) (Robot.length_links r q).symm), hturns,
    Robot.armTurn_congr (hangle _) (hangle _) (hangle _)]
  rfl

/-- The links of a chain, beside its joints at home. -/
structure FollowsHomeTurns (frames : List (Frame ℝ)) (values : List ℝ) (links : List (Motion ℝ)) :
    Prop where
  length_eq : links.length = min frames.length values.length
  rigid : ∀ link ∈ links, link.IsRigid
  /-- Each link is the product of the turns about the axes at home up to its own. -/
  product : ∀ k < links.length, links[k]? = some ((homeTurns frames values).take (k + 1)).prod
  /-- For the joint values of a candidate of the solver, the third link is the product that the
  solver has taken away from its target to find the angles of the wrist. -/
  solver : ∀ (r : Robot ℝ) reference target behind below negative,
    r.jointFrames.toList = frames →
    (r.candidate reference target behind below negative).joints.toList = values →
      links[2]? = some (r.branchArm reference target behind below)
  /-- The origin and the axis of a joint depend on the values of the joints before it only. -/
  before : ∀ k values' links' f link link', chain? frames values' = .ok links' →
    values'.take k = values.take k → frames[k]? = some f → links[k]? = some link →
    links'[k]? = some link' →
      (f.moved link').point = (f.moved link).point ∧ (f.moved link').zaxis = (f.moved link).zaxis

theorem chain?_real (frames : List (Frame ℝ)) (values : List ℝ) :
    chain? frames values = .ok (chain frames values) := by
  rw [chain?, checkChainFrom_real]
  rfl

/-- **The links of a chain are the products of its turns at home.** -/
theorem chain?_followsHomeTurns (h : ∀ f ∈ frames, f.IsOrthonormal) (values : List ℝ) :
    ∃ links, chain? frames values = .ok links ∧ FollowsHomeTurns frames values links := by
  refine ⟨_, chain?_real frames values, ?_⟩
  constructor
  case length_eq => exact length_chain frames values
  case rigid =>
    exact isRigid_of_mem_chainFrom Motion.IsRigid.one (isOrthonormal_of_mem_zip_left h values)
  case product => exact fun k hk => chain_getElem? h hk
  case solver =>
    rintro r reference target behind below negative rfl rfl
    exact thirdLink_candidate h reference target behind below negative
  case before =>
    intro k values' links' f link link' hlinks' htake hf hlink hlink'
    rw [chain?_real, Except.ok.injEq] at hlinks'
    rw [← hlinks'] at hlink'
    obtain ⟨hpoint, haxis⟩ := frame_moved_chain h hf hlink
    obtain ⟨hpoint', haxis'⟩ := frame_moved_chain h hf hlink'
    rw [htake] at hpoint' haxis'
    exact ⟨hpoint'.trans hpoint.symm, haxis'.trans haxis.symm⟩

/-- The chain of the small arm, for joint values that the solver has computed. -/
theorem chain?_followsHomeTurns_smallArm :
    let q := (Robot.smallArm.candidate Robot.bentWrist Robot.bentSeen false true false).joints
    (∀ f ∈ Robot.smallArm.jointFrames.toList, f.IsOrthonormal) ∧
      ∃ links, chain? Robot.smallArm.jointFrames.toList q.toList = .ok links ∧
        FollowsHomeTurns Robot.smallArm.jointFrames.toList q.toList links ∧
        links[2]? = some (Robot.smallArm.branchArm Robot.bentWrist Robot.bentSeen false true) := by
  intro q
  have hframes := Robot.isOrthonormal_of_mem_jointFrames Robot.smallArm_isExact
  obtain ⟨links, hlinks, hfollows⟩ := chain?_followsHomeTurns hframes q.toList
  exact ⟨hframes, links, hlinks, hfollows, hfollows.solver _ _ _ _ _ _ rfl rfl⟩

end SixAxis
