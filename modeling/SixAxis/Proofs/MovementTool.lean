import SixAxis.Program.Movement
import SixAxis.Proofs.CheckedSteps
import SixAxis.Proofs.LinkChain
import SixAxis.Proofs.SolvedTargets

/-!
# The tool that a movement is declared for

A movement can name a tool of its own.  The instruction uses that name, but the declaration of the
target is solved for the tool that the robot carries.  The solver sees a tool only by its centre
point, so the two agree for tools with the same centre point.

* `Robot.solution_withTool` — the solver sees a tool only by its centre point;
* `Movement.declaration_withTool_iff` — **when the declaration is the one for another tool**: when
  the solutions agree in what of them is written;
* `Movement.declaration_of_robot_tool` — **the declaration is that of the tool of the robot**, with
  what follows where the movement names another tool.
-/

namespace SixAxis

/-! ### What the solver sees of a tool -/

namespace Robot

section Tool

variable {R : Type} [Scalar R] {r : Robot R} {t : Tool R}

theorem toTarget_withTool (h : (r.withTool t).tcp = r.tcp) :
    (r.withTool t).toTarget = r.toTarget := by
  funext target
  rw [toTarget, toTarget, h]

theorem wristCenter_withTool (h : (r.withTool t).tcp = r.tcp) :
    (r.withTool t).wristCenter = r.wristCenter := by
  funext target
  rw [wristCenter, toTarget_withTool h]
  rfl

theorem baseTurn_withTool (h : (r.withTool t).tcp = r.tcp) :
    (r.withTool t).baseTurn = r.baseTurn := by
  funext reference target behind
  rw [baseTurn, wristCenter_withTool h]
  rfl

theorem reached_withTool (h : (r.withTool t).tcp = r.tcp) :
    (r.withTool t).reached = r.reached := by
  funext reference target behind
  rw [reached, wristCenter_withTool h, baseTurn_withTool h]
  rfl

theorem candidate_withTool (h : (r.withTool t).tcp = r.tcp) :
    (r.withTool t).candidate = r.candidate := by
  funext reference target behind below negative
  rw [candidate, baseTurn_withTool h, reached_withTool h, toTarget_withTool h]
  rfl

theorem candidates_withTool (h : (r.withTool t).tcp = r.tcp) :
    (r.withTool t).candidates = r.candidates := by
  funext reference target
  rw [candidates, candidate_withTool h]
  rfl

/-- The solver sees a tool only by its centre point. -/
theorem solution_withTool (h : (r.withTool t).tcp = r.tcp) :
    (r.withTool t).solution = r.solution := by
  funext target external fixed reference
  unfold solution
  rw [candidates_withTool h]
  rfl

theorem isDegenerateFor_withTool (h : (r.withTool t).tcp = r.tcp) :
    (r.withTool t).isDegenerateFor = r.isDegenerateFor := by
  funext target reference
  rw [isDegenerateFor, reached_withTool h]
  rfl

end Tool

section Solve

variable {r : Robot Float} {t : Tool Float}

theorem solve_withTool (h : (r.withTool t).tcp = r.tcp) : (r.withTool t).solve = r.solve := by
  funext target external fixed reference
  rw [solve, baseTurn_withTool h, isDegenerateFor_withTool h, solution_withTool h]
  rfl

/-- What is solved is the solution for the values that the external axes are resolved to. -/
theorem external_of_solve {target : Frame Float} {external : ExternalJoints Float}
    {fixed : Option Number} {reference : RobotJoints Float} {s : Solution Float}
    (h : r.solve target external fixed reference = .ok s) :
    s.external = r.resolve external target.copied := by
  obtain ⟨configuration, rfl⟩ := exists_solution_of_solve h
  rfl

end Solve

end Robot

/-! ### What the declaration writes -/

namespace Movement

variable {m : Movement} {r : Robot Float} {t : Tool Float}

/-- Whether two solutions are written alike: with the same joint values, or for a pose, where it
leaves the configuration open, with the same configuration. -/
def WritesAlike (m : Movement) (s s' : Solution Float) : Prop :=
  if m.isAbsolute then s.joints.code = s'.joints.code
  else m.target.configuration = none → s.chosen.configuration = s'.chosen.configuration

/-- Whether two outcomes of solving are declared alike. -/
def DeclaresAlike (m : Movement) : Checked (Solution Float) → Checked (Solution Float) → Prop
  | .ok s, .ok s' => m.WritesAlike s s'
  | .error e, .error e' => e = e'
  | _, _ => False

theorem toString_val_inj {i j : Configuration} : toString i.val = toString j.val ↔ i = j := by
  revert i j
  decide

/-- Solutions with the same values of the external axes have the same declaration when they are
written alike. -/
theorem declarationOf_eq_iff {s s' : Solution Float} (hexternal : s.external = s'.external) :
    m.declarationOf s = m.declarationOf s' ↔ m.WritesAlike s s' := by
  rw [declarationOf, declarationOf, WritesAlike, hexternal]
  by_cases habsolute : m.isAbsolute = true
  · rw [if_pos habsolute, if_pos habsolute, if_pos habsolute]
    simp only [toString, String.append_left_inj, String.append_right_inj]
  · rw [if_neg habsolute, if_neg habsolute, if_neg habsolute]
    cases hconfiguration : m.target.configuration with
    | some n => simp
    | none =>
      rw [← toString_val_inj]
      simp only [String.append_left_inj, String.append_right_inj, forall_const]
      exact Iff.rfl

/-- Solving for another tool resolves the external axes to the same values. -/
theorem external_withTool {s s' : Solution Float} (hs : m.solution r = .ok s)
    (hs' : m.solution (r.withTool t) = .ok s') : s.external = s'.external := by
  obtain ⟨target, htarget, hsolve⟩ := bind_eq_ok.1 hs
  obtain ⟨target', htarget', hsolve'⟩ := bind_eq_ok.1 hs'
  have hsame : target = target' := by
    have hworld : m.worldTarget (r.withTool t) = m.worldTarget r := rfl
    rw [hworld, htarget] at htarget'
    exact Except.ok.inj htarget'
  rw [Robot.external_of_solve hsolve, Robot.external_of_solve hsolve', hsame]
  rfl

/-- **When the declaration is the one for another tool**: when the outcomes of solving are declared
alike. -/
theorem declaration_withTool_iff (m : Movement) (r : Robot Float) (t : Tool Float) :
    m.declaration (some r) = m.declaration (some (r.withTool t)) ↔
      m.DeclaresAlike (m.solution r) (m.solution (r.withTool t)) := by
  have hown : m.declaration (some r) = (m.solution r).map m.declarationOf := by
    rw [declaration]
    cases m.solution r <;> rfl
  have hother : m.declaration (some (r.withTool t)) =
      (m.solution (r.withTool t)).map m.declarationOf := by
    rw [declaration]
    cases m.solution (r.withTool t) <;> rfl
  rw [hown, hother]
  cases hs : m.solution r with
  | error e =>
    cases hs' : m.solution (r.withTool t) with
    | error e' =>
      constructor
      · exact Except.error.inj
      · exact congrArg Except.error
    | ok s' =>
      constructor
      · intro h
        cases h
      · exact False.elim
  | ok s =>
    cases hs' : m.solution (r.withTool t) with
    | error e' =>
      constructor
      · intro h
        cases h
      · exact False.elim
    | ok s' =>
      rw [DeclaresAlike, ← declarationOf_eq_iff (external_withTool hs hs')]
      constructor
      · exact Except.ok.inj
      · exact congrArg Except.ok

theorem solution_withTool (m : Movement) (h : (r.withTool t).tcp = r.tcp) :
    m.solution (r.withTool t) = m.solution r := by
  rw [solution, Robot.solve_withTool h]
  rfl

theorem declaration_withTool_of_tcp_eq (m : Movement) (h : (r.withTool t).tcp = r.tcp) :
    m.declaration (some r) = m.declaration (some (r.withTool t)) := by
  rw [declaration, declaration, solution_withTool m h]

end Movement

/-! ### Where another tool is -/

namespace Frame

/-- A rigid motion tells frames apart. -/
theorem moved_injective {f g : Frame ℝ} {m : Motion ℝ} (hm : m.IsRigid)
    (h : f.moved m = g.moved m) : f = g := by
  refine toMotion_injective ?_
  have hmotions := congrArg toMotion h
  rw [toMotion_moved hm, toMotion_moved hm] at hmotions
  have hcancel := congrArg (m.inverse * ·) hmotions
  simp only [← mul_assoc, hm.inverse_mul, one_mul] at hcancel
  exact hcancel

end Frame

namespace Robot

/-- In exact arithmetic, joint values that bring the tool of a robot onto a target bring another
tool there when the centre points are the same, and only then. -/
theorem posture_withTool_tcp_eq_iff {r : Robot ℝ} (h : r.IsExact) (t : Tool ℝ) {q : RobotJoints ℝ}
    {external : ExternalJoints ℝ} {target : Frame ℝ} (hq : (r.posture q external).tcp = target) :
    ((r.withTool t).posture q external).tcp = target ↔ (r.withTool t).tcp = r.tcp := by
  have hrigid := (baseChange_isRigid r external).mul (lastLink_isRigid h q)
  rw [← hq]
  constructor
  · intro hsame
    exact Frame.moved_injective hrigid hsame
  · intro htcp
    show (r.withTool t).tcp.moved _ = r.tcp.moved _
    rw [htcp]
    rfl

end Robot

namespace Movement

/-- **The declaration is that of the tool of the robot**, whichever tool the movement names.  It is
the declaration for the named tool exactly when solving for the two tools is declared alike, as it
is for tools with the same centre point; and in exact arithmetic only these are on the target for
the same joint values. -/
theorem declaration_of_robot_tool (m : Movement) (r : Robot Float) (t : Tool Float) :
    let own := { m with tool := some t }
    own.declaration (some r) = { m with tool := none }.declaration (some r)
      ∧ (own.declaration (some r) = own.declaration (some (r.withTool t)) ↔
        own.DeclaresAlike (own.solution r) (own.solution (r.withTool t)))
      ∧ ((r.withTool t).tcp = r.tcp →
        own.declaration (some r) = own.declaration (some (r.withTool t)))
      ∧ ∀ (arm : Robot ℝ) (pin : Tool ℝ) (q : RobotJoints ℝ) (external : ExternalJoints ℝ)
        (target : Frame ℝ), arm.IsExact → (arm.posture q external).tcp = target →
        (((arm.withTool pin).posture q external).tcp = target ↔
          (arm.withTool pin).tcp = arm.tcp) := by
  intro own
  refine ⟨rfl, declaration_withTool_iff own r t, declaration_withTool_of_tcp_eq own, ?_⟩
  intro arm pin q external target harm hq
  exact Robot.posture_withTool_tcp_eq_iff harm pin hq

end Movement

end SixAxis
