import SixAxis.Program.Identifier
import SixAxis.Arm.ExternalAxis
import SixAxis.CodeNumber

/-!
# Work objects

A coordinate system that targets are given in: a user frame in the world and an object frame
within it.  An external axis can move it, and the robot can hold it.  The controller knows one
work object by name; any other one is declared.

* `poseCode` — a frame in generated code;
* `WorkObject.globalFrame`, `WorkObject.globalFrame?` — the object frame in the world;
* `WorkObject.declaration` — the declaration, empty for the known work object.
-/

namespace SixAxis

/-- A frame in generated code: its origin, and its orientation as a quaternion. -/
def poseCode (f : Frame Float) : String :=
  let orientation := CodeNumber.list f.quaternion.toList CodeNumber.unitDecimals
  s!"[[{CodeNumber.list f.point.toList}], [{orientation}]]"

/-- A coordinate system of targets. -/
structure WorkObject where
  name : Identifier
  userFrame : Frame Float
  objectFrame : Frame Float
  /-- The external axis that moves the work object. -/
  axis : Option (ExternalAxis Float)
  /-- Whether the robot holds the work object. -/
  held : Datum

namespace WorkObject

/-- The name of the work object that every controller has: its frames are those of the world. -/
def standardName : String := "wobj0"

/-- A work object with the given parts. -/
def make (name : Datum) (userFrame objectFrame : Frame Float) (axis : Option (ExternalAxis Float))
    (held : Datum) : Checked WorkObject := do
  let name ← Identifier.ofData name (ActionFault.workObjectName name)
  return ⟨name, userFrame, objectFrame, axis, held⟩

/-- Whether the controller knows the work object by its name. -/
def isPredefined (w : WorkObject) : Bool := w.name.text == standardName

/-- The object frame in the world. -/
def globalFrame (w : WorkObject) : Frame Float := w.objectFrame.moved w.userFrame.toMotion

/-- The object frame in the world, if it is in space. -/
def globalFrame? (w : WorkObject) : Checked (Frame Float) :=
  w.objectFrame.moved? w.userFrame.toMotion

/-- The declaration, empty for the work object that the controller knows. -/
def declaration (w : WorkObject) : String :=
  if w.isPredefined then ""
  else
    let held := if w.held.isTruthy then "TRUE" else "FALSE"
    let (fixed, axis) := match w.axis with
      | none => ("TRUE", "")
      | some a => ("FALSE", a.name.display)
    s!"PERS wobjdata {w.name.text} := [{held}, {fixed}, \"{axis}\", "
      ++ s!"{poseCode w.userFrame}, {poseCode w.objectFrame}];"

end WorkObject

end SixAxis
