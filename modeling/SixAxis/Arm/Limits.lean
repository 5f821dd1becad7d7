import SixAxis.Arm.Robot

/-!
# Limit messages

Values outside the limits and targets out of reach are not faults.  They are reported: as flags,
one for each joint and for each slot of an external axis, and as messages.

* `Robot.internalFlags`, `Robot.externalFlags` — which values are within the limits;
* `Report` — one thing to tell about a posture or a solution, with its text.
-/

namespace SixAxis

/-- One thing to tell about a posture or a solution. -/
inductive Report where
  | internal (joint : Fin 6)
  | external (slot : Fin 6)
  | noConfiguration
  | outOfReach
deriving Repr, DecidableEq, BEq

namespace Report

/-- The text of a report. -/
def text : Report → String
  | internal i => s!"Internal axis value {i.val + 1} is not in range."
  | external i => s!"External axis value {i.val + 1} is not in range."
  | noConfiguration => "No axis configuration is within the joint limits."
  | outOfReach => "Target is out of reach."

end Report

namespace Robot

variable {R : Type} [Scalar R]

/-- Which joint values are within the limits of their joints. -/
def internalFlags (r : Robot R) (joints : RobotJoints R) : Vector Bool 6 :=
  Vector.ofFn fun i : Fin 6 => (r.jointLimits.get i).contains (joints.get i)

/-- A report for every joint whose flag is not set. -/
def internalReports (flags : Vector Bool 6) : List Report :=
  ((List.finRange 6).filter fun i => !flags.get i).map .internal

/-- Whether the value in the slot of an axis is within its limits. -/
def axisFits (a : AttachedAxis R) (external : ExternalJoints R) : Bool :=
  a.axis.limits.contains (.real (external.get a.slot))

/-- The axes that a check of the limits looks at: all of them, or only those with a value. -/
def misfits (r : Robot R) (external : ExternalJoints R) (definedOnly : Bool) :
    List (AttachedAxis R) :=
  r.axes.filter fun a => (!definedOnly || external.isDefined a.slot) && !axisFits a external

/-- The flags of the slots, all set but those of the given axes. -/
def externalFlags (misfits : List (AttachedAxis R)) : Vector Bool 6 :=
  Vector.ofFn fun i : Fin 6 => !misfits.any (·.slot = i)

/-- A report for each of the given axes. -/
def externalReports (misfits : List (AttachedAxis R)) : List Report :=
  misfits.map fun a => .external a.slot

end Robot

end SixAxis
