import SixAxis.Program.Movement
import SixAxis.Text.Blank

/-!
# Actions

What a program is built from.  Every action contributes to the declarations, to the procedure, or
to both; a contribution can be several lines and can be empty.

* `Action.declaration`, `Action.instruction` — the two contributions;
* `Comment`, `CodeLine`, `Timer`, `JointDeclaration` and their constructors.
-/

namespace SixAxis

/-- The part of a program that a comment or a line of code goes to. -/
inductive Section where
  | declaration
  | instruction
deriving Repr, DecidableEq, BEq

namespace Section

/-- The word for a part. -/
def word : Section → String
  | declaration => "declaration"
  | instruction => "instruction"

/-- The part of a word. -/
def ofData (d : Datum) : Checked Section :=
  match d with
  | .text "declaration" => .ok declaration
  | .text "instruction" => .ok instruction
  | d => .error (Misuse.notMember d "CodeType")

end Section

/-- A remark in the program. -/
structure Comment where
  text : Datum
  place : Section
  nonempty : text.isTruthy = true

namespace Comment

/-- A remark with a text that is not empty. -/
def make (text : Datum) (place : Section) : Checked Comment :=
  if h : text.isTruthy then .ok ⟨text, place, h⟩ else .error ActionFault.emptyComment

/-- The lines of the remark, each marked as one; only a text has lines. -/
def code (c : Comment) : Checked String :=
  match c.text with
  | .text s => .ok ("\n".intercalate ((Text.lines s).map ("! " ++ ·)))
  | _ => .error Misuse.partless

/-- The lines, in the part of the program they go to. -/
def codeIn (c : Comment) (place : Section) : Checked String :=
  if c.place = place then c.code else .ok ""

end Comment

/-- Code that is written as it is. -/
structure CodeLine where
  code : String
  place : Section
  nonblank : Text.trim code ≠ ""

namespace CodeLine

/-- Code that is not blank. -/
def make (code : Datum) (place : Section) : Checked CodeLine :=
  match code with
  | .text s =>
    if h : Text.trim s = "" then .error ActionFault.emptyCode else .ok ⟨s, place, h⟩
  | _ => .error Misuse.partless

/-- The code, in the part of the program it goes to. -/
def codeIn (c : CodeLine) (place : Section) : String := if c.place = place then c.code else ""

end CodeLine

/-- Waiting for a time. -/
structure Timer where
  /-- In seconds. -/
  duration : Number
  nonnegative : ¬ duration < .whole 0

namespace Timer

/-- Waiting for a time that is not negative. -/
def make (duration : Datum) : Checked Timer := do
  let n ← duration.toNumber
  if h : n < .whole 0 then .error (ActionFault.negativeDuration n) else return ⟨n, h⟩

/-- The time in generated code. -/
def time (t : Timer) : Checked String := CodeNumber.ofNumber t.duration CodeNumber.fineDecimals

/-- The instruction. -/
def instruction (t : Timer) : Checked String := do return s!"WaitTime {← t.time};"

end Timer

/-- A joint vector as a constant of the program. -/
structure JointDeclaration where
  name : Identifier
  position : JointVector Float

namespace JointDeclaration

/-- The name of a constant for a joint vector. -/
def checkName (name : Datum) : Checked Identifier := signalName name "joint position"

/-- The type of the constant. -/
def type (j : JointDeclaration) : String :=
  match j.position.kind with
  | .robot => "robjoint"
  | .external => "extjoint"

/-- The declaration. -/
def declaration (j : JointDeclaration) : String :=
  s!"CONST {j.type} {j.name.text} := {j.position.joints.code};"

end JointDeclaration

/-- One step of a program. -/
inductive Action where
  | comment (c : Comment)
  | timer (t : Timer)
  | output (d : DigitalOutput)
  | wait (w : InputWait)
  /-- Whether the controller chooses axis configurations itself. -/
  | freeConfiguration (enabled : Datum)
  | code (c : CodeLine)
  | joints (j : JointDeclaration)
  | movement (m : Movement)

namespace Action

/-- The instructions that switch the checks of axis configurations. -/
def configurationCode (enabled : Datum) : String :=
  let state := if enabled.isTruthy then "Off" else "On"
  s!"ConfL\\{state};\nConfJ\\{state};"

/-- What the action adds to the declarations. -/
def declaration (a : Action) (r : Option (Robot Float)) : Checked String :=
  match a with
  | comment c => c.codeIn .declaration
  | code c => .ok (c.codeIn .declaration)
  | joints j => .ok j.declaration
  | movement m => m.declaration r
  | timer _ | output _ | wait _ | freeConfiguration _ => .ok ""

/-- What the action adds to the procedure. -/
def instruction (a : Action) (r : Option (Robot Float)) : Checked String :=
  match a with
  | comment c => c.codeIn .instruction
  | code c => .ok (c.codeIn .instruction)
  | joints _ => .ok ""
  | movement m => .ok (m.instruction r)
  | timer t => t.instruction
  | output d => .ok d.instruction
  | wait w => .ok w.instruction
  | freeConfiguration enabled => .ok (configurationCode enabled)

/-- The word for the kind of an action. -/
def word : Action → String
  | comment _ => "comment"
  | timer _ => "timer"
  | output _ => "digital_output"
  | wait _ => "wait_di"
  | freeConfiguration _ => "auto_axis_config"
  | code _ => "code_line"
  | movement _ => "movement"
  | joints j =>
    match j.position.kind with
    | .robot => "robot_joint_position"
    | .external => "external_joint_position"

/-- The action in a message, for the kinds that have one. -/
def described? : Action → Checked (Option String)
  | comment c => .ok s!"Comment ({c.text.display})"
  | timer t => do return s!"Timer ({← t.time} sec.)"
  | output d => .ok s!"Digital Output ({d.name.text}\\{d.active.display})"
  | movement m => .ok m.described
  | _ => .ok none

end Action

end SixAxis
