import SixAxis.Program.Identifier
import SixAxis.Space.Frame
import SixAxis.Joints.Basic

/-!
# Targets

A named pose that a movement goes to, in the coordinates of a work object, with the axis
configuration it is to be reached in, if that is not left open, and the values of the external
axes.  A configuration is a number from zero to seven.
-/

namespace SixAxis

/-- Whether a number is in the range of axis configurations. -/
def isConfiguration (n : Number) : Bool := decide ((.whole 0 : Number) ≤ n ∧ n ≤ .whole 7)

/-- A named pose. -/
structure Target where
  name : Identifier
  frame : Frame Float
  configuration : Option Number
  external : ExternalJoints Float
  inRange : configuration.all isConfiguration = true

namespace Target

/-- A target with the given parts. -/
def make (name : Datum) (frame : Frame Float) (configuration : Datum)
    (external : ExternalJoints Float) : Checked Target := do
  let name ← Identifier.ofData name (ActionFault.targetName name)
  match configuration with
  | .null => return ⟨name, frame.copied, none, external, rfl⟩
  | .number n =>
    if h : isConfiguration n then return ⟨name, frame.copied, some n, external, h⟩
    else .error (ActionFault.targetConfiguration name.text n)
  | _ => .error Misuse.illTyped

/-- The name of the pose in a program. -/
def poseName (t : Target) : String := t.name.text

/-- The name of the joint values in a program. -/
def jointName (t : Target) : String := t.name.text ++ "_jt"

/-- The target in a message. -/
def described (t : Target) : String := s!"Target ({t.name.text})"

end Target

end SixAxis
