import SixAxis.Joints.Basic
import SixAxis.Datum.Reading
import SixAxis.CodeNumber

/-!
# Joint vectors from data and as text

* `Joints.ofData` — a vector from listed values, at most six;
* `Joints.ofNullable` — the same where null marks a slot without an axis;
* `Joints.code`, `Joints.described`, `JointKind.constructor` — a vector in generated code, in a
  message and as an expression.
-/

namespace SixAxis

namespace Joints

variable {kind : JointKind}

/-- A vector from listed values.  A single list among them stands for its items. -/
def ofData (values : List Datum) : Checked (Joints kind Float) := do
  let values := match values with
    | [.list items] => items
    | _ => values
  if 6 < values.length then .error (ActionFault.jointCount kind.label 6 values)
  return ofValues (← values.mapM Datum.toReal)

/-- A vector in which null marks a slot without an axis. -/
def ofNullable (values : List Datum) : Checked (Joints kind Float) :=
  ofData (values.map fun d => match d with
    | .null => .real unconnected
    | d => d)

/-- The values, null where a slot is unconnected. -/
def toNullable (j : Joints kind Float) : Datum :=
  .list (j.toList.map fun v => if isUnconnected v then .null else .real v)

/-- The array of the values in generated code. -/
def code (j : Joints kind Float) (decimals : Nat := CodeNumber.lengthDecimals) : String :=
  "[" ++ CodeNumber.list j.toList decimals ++ "]"

/-- The vector in a message. -/
def described (j : Joints kind Float) : String :=
  s!"{kind.label} ({CodeNumber.list j.toList})"

end Joints

namespace JointKind

/-- The name of a kind of vectors in declarations and data. -/
def className : JointKind → String
  | robot => "RobotJointPosition"
  | external => "ExternalJointPosition"

end JointKind

namespace Joints

/-- The vector as an expression. -/
def expression {kind : JointKind} (j : Joints kind Float) : String :=
  kind.className ++ "(" ++ ", ".intercalate (j.toList.map Decimal.shown) ++ ")"

end Joints

end SixAxis
