import SixAxis.Arm.Elbow
import SixAxis.Arm.Posture

/-!
# Solutions

The joint values that bring the tool centre point onto a target.  Three choices with two branches
each give eight candidates, numbered by the axis configuration of the controller:

* four for the wrist centre behind axis one,
* two for the wrist centre behind the lower arm,
* one for a negative fifth axis.

Unless a configuration is asked for, the candidate is chosen that is within reach and limits and
closest to the reference; if there is none, the one that comes nearest to that.  What keeps a
candidate from being reached is reported, not a fault.

* `Robot.candidates` — the eight candidates in the order of their configurations;
* `Robot.resolve` — the values of the external axes;
* `Robot.choose` — the selection;
* `Robot.solution` and `Robot.solve` — all of it, and with the cases that are faults.
-/

namespace SixAxis

/-- An axis configuration of the controller. -/
abbrev Configuration := Fin 8

/-- The configuration of three choices. -/
def configuration (behindAxisOne behindLowerArm fifthNegative : Bool) : Configuration :=
  ⟨4 * behindAxisOne.toNat + 2 * behindLowerArm.toNat + fifthNegative.toNat, by
    cases behindAxisOne <;> cases behindLowerArm <;> cases fifthNegative <;> decide⟩

/-- One of the eight ways to reach a target. -/
structure Candidate (R : Type) where
  configuration : Configuration
  joints : RobotJoints R
  reachable : Bool
  flags : Vector Bool 6
  /-- How far the joint values are outside their limits, all together. -/
  violation : R

namespace Candidate

variable {R : Type}

/-- Whether all joint values are within their limits. -/
def inLimits (c : Candidate R) : Bool := c.flags.toList.all id

variable [Scalar R]

/-- The distance of the joint values from a reference. -/
def distance (c : Candidate R) (reference : RobotJoints R) : R :=
  Scalar.sqrt <| (List.finRange 6).foldl (fun sum i =>
    let d := c.joints.get i - reference.get i
    sum + d * d) 0.0

/-- How far a value is outside an interval. -/
def excess (limits : Interval R) (v : R) : R :=
  Scalar.larger (Scalar.larger (limits.low - v) (v - limits.high)) 0.0

/-- The candidate of six angles in radians, each moved by whole turns to suit its limits and the
reference. -/
def ofRadians (r : Robot R) (reference : RobotJoints R) (configuration : Configuration)
    (radians : Vector R 6) (reachable : Bool) : Candidate R :=
  let joints : RobotJoints R := ⟨Vector.ofFn fun i : Fin 6 =>
    fitAngle (Scalar.degrees (radians.get i)) (r.jointLimits.get i) (reference.get i)⟩
  { configuration := configuration
    joints := joints
    reachable := reachable
    flags := r.internalFlags joints
    violation := (List.finRange 6).foldl (fun sum i =>
      sum + excess (r.jointLimits.get i) (joints.get i)) 0.0 }

/-- Whether one candidate is chosen before another, both within reach and limits: the closer one,
of equally close ones that of the smaller configuration. -/
def closer (reference : RobotJoints R) (a b : Candidate R) : Bool :=
  let da := a.distance reference
  let db := b.distance reference
  if da == db then decide (a.configuration < b.configuration) else decide (da < db)

/-- Whether one candidate is chosen before another when none is within reach and limits: one
within reach, then the one less far outside its limits, then the closer one. -/
def nearer (reference : RobotJoints R) (a b : Candidate R) : Bool :=
  if a.reachable != b.reachable then a.reachable
  else if a.violation == b.violation then closer reference a b
  else decide (a.violation < b.violation)

end Candidate

/-- The outcome of solving a target. -/
structure Solution (R : Type) where
  external : ExternalJoints R
  /-- The eight candidates in the order of their configurations. -/
  candidates : Vector (Candidate R) 8
  chosen : Candidate R
  externalFlags : Vector Bool 6
  reports : List Report

namespace Solution

variable {R : Type}

/-- The joint values of the chosen candidate. -/
def joints (s : Solution R) : RobotJoints R := s.chosen.joints

/-- Whether all values are within the limits. -/
def inLimits (s : Solution R) : Bool := s.chosen.inLimits && s.externalFlags.toList.all id

end Solution

namespace Robot

variable {R : Type} [Scalar R]

/-! ### Candidates -/

/-- The turn of a joint at home by an angle in radians. -/
def homeTurn (r : Robot R) (i : Joint) (angle : R) : Motion R :=
  Motion.rotation (r.jointFrames.get i).zaxis angle (r.jointFrames.get i).point

/-- The motion that brings the tool centre point at home onto a target. -/
def toTarget (r : Robot R) (target : Frame R) : Motion R := Motion.between r.tcp target

/-- The wrist centre when the tool centre point is on a target. -/
def wristCenter (r : Robot R) (target : Frame R) : Vec R :=
  (r.toTarget target).apply (ArmPlane.ofRobot r).wristCenter

/-- The angle of joint one for either of its branches. -/
def baseTurn (r : Robot R) (reference : RobotJoints R) (target : Frame R) (behind : Bool) : R :=
  let front := (ArmPlane.ofRobot r).turnOfBase (r.wristCenter target)
    (Scalar.radians (reference.get Joint.first))
  if behind then front + Scalar.pi else front

/-- The wrist centre seen from the shoulder for a branch of joint one. -/
def reached (r : Robot R) (reference : RobotJoints R) (target : Frame R) (behind : Bool) :
    Flat R :=
  let back := r.homeTurn Joint.first (-r.baseTurn reference target behind)
  (ArmPlane.ofRobot r).reachedFrom back (r.wristCenter target)

/-- The candidate of three choices. -/
def candidate (r : Robot R) (reference : RobotJoints R) (target : Frame R)
    (behindAxisOne behindLowerArm fifthNegative : Bool) : Candidate R :=
  let plane := ArmPlane.ofRobot r
  let first := r.baseTurn reference target behindAxisOne
  let w := r.reached reference target behindAxisOne
  let cosine := plane.shoulderCosine w.length
  let sign : R := if behindLowerArm then 1.0 else -1.0
  let (second, third) := plane.turnsOfArm w (ArmPlane.shoulderAngle cosine) sign
  let arm :=
    r.homeTurn Joint.first first * r.homeTurn Joint.second second * r.homeTurn Joint.third third
  let (positive, negative) :=
    Wrist.angles r (arm.inverse * r.toTarget target) (Scalar.radians (reference.get Joint.fourth))
  let wrist := if fifthNegative then negative else positive
  Candidate.ofRadians r reference (configuration behindAxisOne behindLowerArm fifthNegative)
    #v[first, second, third, wrist.first, wrist.second, wrist.third] (ArmPlane.isReachable cosine)

/-- The eight candidates in the order of their configurations. -/
def candidates (r : Robot R) (reference : RobotJoints R) (target : Frame R) :
    Vector (Candidate R) 8 :=
  Vector.ofFn fun i : Fin 8 =>
    r.candidate reference target (4 ≤ i.val) (2 ≤ i.val % 4) (i.val % 2 = 1)

/-! ### External axes -/

/-- The value of an axis whose slot is undefined: the carrier of the robot goes as close to the
target as it can, any other axis stays at zero. -/
def defaultValue (a : AttachedAxis R) (target : Frame R) : R :=
  if a.axis.carriesRobot then a.axis.closest target.point else 0.0

/-- The values of the external axes for a target: those that are given, and for attached axes
that are not, the default ones. -/
def resolve (r : Robot R) (external : ExternalJoints R) (target : Frame R) : ExternalJoints R :=
  r.axes.foldl (fun values a =>
    if values.isDefined a.slot then values else values.set a.slot (defaultValue a target)) external

/-! ### Selection -/

/-- The chosen candidate, and whether one is within reach and limits. -/
def choose (candidates : Vector (Candidate R) 8) (reference : RobotJoints R) :
    Candidate R × Bool :=
  match leastBy (Candidate.closer reference)
      (candidates.toList.filter fun c => c.reachable && c.inLimits) with
  | some c => (c, true)
  | none =>
    ((leastBy (Candidate.nearer reference) candidates.toList).getD (candidates.get 0), false)

/-- The solution of a target for given or automatic configuration. -/
def solution (r : Robot R) (target : Frame R) (external : ExternalJoints R)
    (fixed : Option Configuration) (reference : RobotJoints R) : Solution R :=
  let resolved := r.resolve external target
  let base := r.baseChange resolved
  let candidates := r.candidates reference (target.moved base.inverse)
  let (chosen, found) := match fixed with
    | some i => (candidates.get i, true)
    | none => choose candidates reference
  let misfits := r.misfits resolved false
  { external := resolved
    candidates := candidates
    chosen := chosen
    externalFlags := externalFlags misfits
    reports := (if found then [] else [.noConfiguration])
      ++ (if chosen.reachable then [] else [.outOfReach])
      ++ internalReports chosen.flags ++ externalReports misfits }

/-! ### Faults -/

/-- The configuration that a number stands for. -/
def configurationOf? (n : Number) : Option Configuration :=
  (List.finRange 8).find? fun i => n.same (.whole i.val)

/-- A configuration that is asked for has to be in the range of the eight. -/
def checkConfiguration : Option Number → Checked Unit
  | none => .ok ()
  | some n =>
    if (.whole 0 : Number) ≤ n ∧ n ≤ .whole 7 then .ok ()
    else .error (ActionFault.fixedConfiguration n)

/-- Whether the arm of a robot cannot be solved for a target, seen from its base, because its upper
arm has no length in the arm plane. -/
def isDegenerateFor (r : Robot R) (target : Frame R) (reference : RobotJoints R) : Bool :=
  [false, true].any fun behind =>
    (ArmPlane.ofRobot r).isDegenerate (r.reached reference target behind).length

/-- Whether the values that the external axes take for a target are in the range of doubles. -/
def checkResolved (r : Robot Float) (external : ExternalJoints Float) (target : Frame Float) :
    Checked Unit := do
  for a in r.axes do
    if !external.isDefined a.slot && a.axis.carriesRobot then
      let _ ← a.axis.closest? target.point

/-- The solution of a target; it has to stay in space, and the configuration, if one is asked for,
has to exist. -/
def solve (r : Robot Float) (target : Frame Float) (external : ExternalJoints Float)
    (fixed : Option Number) (reference : RobotJoints Float) : Checked (Solution Float) := do
  checkConfiguration fixed
  let target := target.copied
  r.checkResolved external target
  let seen ← target.moved? (r.baseChange (r.resolve external target)).inverse
  Motion.checkTurn (r.baseTurn reference seen false)
  if r.isDegenerateFor seen reference then .error (Misuse.zeroDivisor none)
  let configuration ← match fixed with
    | none => pure none
    | some n =>
      match configurationOf? n with
      | some c => pure (some c)
      | none => .error (Misuse.missing (.number n))
  return r.solution target external configuration reference

end Robot

end SixAxis
