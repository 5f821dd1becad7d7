import SixAxis.Datum
import SixAxis.Decimal.Read

/-!
# Faults

Everything that can go wrong is a cause, and a cause carries what its message needs.  There
are four families of faults that are meant for the user — of a job or of serialized data, of a
robot definition, of an action, of a joint index — and two that are not: a value of a shape
that an operation has no meaning for (`Misuse`), and a job section that does not fit its
schema (`Issue`).

* `Fault.text` — the one message of a fault: what happened, and behind it the details, if there
  are any;
* `Misuse.described` — a misuse as the details of another fault quote it.
-/

namespace SixAxis

/-- Details of a fault, in the order they are shown. -/
abbrev Details := Datum.Fields

/-! ### Values of the wrong shape -/

/-- A value that an operation has no meaning for. -/
inductive Misuse where
  /-- A field that has to be there is not. -/
  | missing (key : Datum)
  /-- A value of a kind that the operation does not take. -/
  | illTyped
  /-- A value of the right kind that does not denote anything. -/
  | unreadable (why : String)
  /-- A value that lacks the part that is asked for. -/
  | partless
  /-- A division by zero, with a message where joint values are divided. -/
  | zeroDivisor (why : Option String)
  /-- A result beyond the range of doubles. -/
  | overflow
  /-- A place outside a sequence. -/
  | outside
  /-- A path that names something other than a file. -/
  | notAFile
  /-- A path in a directory that there is not. -/
  | noDirectory
  /-- A path through a file. -/
  | notADirectory
  /-- A file where a directory is to be made. -/
  | inTheWay
  /-- A path that no file can have. -/
  | badPath
  /-- A text that cannot be written. -/
  | unencodable
  /-- A message whose styles do not fit together. -/
  | styles
  /-- Parts inside of parts, too many times. -/
  | tooDeep
deriving Repr

namespace Misuse

/-- The longest part of a text that is shown where a whole number is expected. -/
def mostShown : Nat := 200

/-- A text that is no whole number, and why. -/
def notWhole (s : String) : Decimal.NotWhole → Misuse
  | .malformed => .unreadable <|
      "invalid literal for int() with base 10: " ++ ((Text.quoted s).take mostShown).toString
  | .tooLong digits => .unreadable <|
      s!"Exceeds the limit ({Decimal.mostDigits} digits) for integer string conversion: value has "
        ++ s!"{digits} digits; use sys.set_int_max_str_digits() to increase the limit"

/-- A text that is no number. -/
def notReal (s : String) : Misuse :=
  .unreadable ("could not convert string to float: " ++ Text.quoted s)

/-- A value that is no member of a closed set of codes. -/
def notMember (d : Datum) (set : String) : Misuse :=
  .unreadable (d.shown ++ " is not a valid " ++ set)

/-- The misuses that a decoder reports as invalid data, as it quotes them. -/
def described : Misuse → Option String
  | missing key => some ("KeyError(" ++ key.shown ++ ")")
  | illTyped => some "TypeError"
  | unreadable why => some ("ValueError(" ++ Text.quoted why ++ ")")
  | _ => none

end Misuse

/-! ### Families of faults -/

/-- Faults of jobs, of serialized data and of tool registries. -/
inductive ConfigurationFault where
  | unserializable (kind : String)
  | notMapping (kind : String)
  | untyped (data : Datum)
  | otherType (expected : String) (found : Datum) (data : Datum)
  | newerVersion (version found : Datum) (supported : Int)
  | unknownType (found : Datum)
  | robotNeeded (workObject : Datum)
  | axisNotAttached (axis : Datum) (attached : List Datum)
  | unknownZone (name : String)
  | undefinedTool (name : String) (defined : List Datum)
  | invalidValue (misuse : String) (type : Datum)
  | predefinedTool (name : Datum)
  | takenTool (name owner : Datum)
  | unregisteredTool (name owner : Datum) (registered : List Datum)
  | missingJob (path : String)
  | unreadableJob (path : String)
deriving Repr

/-- Faults of robot, tool and axis definitions. -/
inductive RobotFault where
  | reversedInterval (low high : Datum)
  | intervalSize (values : List Datum)
  | unnamedAxis
  | rotatingCarrier (axis : Datum)
  | axisNumber (axis : Datum) (number : Number)
  | closestOnRotary (axis : Datum)
  | unnamedTool
  | toolMass (tool : Datum) (mass : Number)
  | jointFrameCount (robot : Datum) (needed count : Nat)
  | jointLimitCount (robot : Datum) (needed count : Nat)
  | meshCount (robot : Datum) (needed count : Nat)
  | axisCount (robot : Datum) (most count : Nat)
  | carrierCount (robot : Datum) (carriers : List Datum)
  | carrierNotLinear (robot : Datum)
  | repeatedNumber (robot number axis : Datum)
  | unknownPreset (name : Datum) (available : List String)
  | undefinedTool (name : String) (defined : List String)
deriving Repr

/-- Faults of actions and of the data that movements use. -/
inductive ActionFault where
  | jointCount (label : String) (most : Nat) (values : List Datum)
  /-- A defined joint value combined with an undefined one: the first such slot and all. -/
  | mismatch (label symbol : String) (first : Nat) (all : List Nat)
  | speedName (name : Datum)
  | negativeSpeed (name : String)
  | notPredefinedSpeed (speed : Datum) (available : List Nat)
  | zoneName (name : Datum)
  | negativeZone (name : String)
  | zonePrecision (precision : Number)
  | workObjectName (name : Datum)
  | targetName (name : Datum)
  | targetConfiguration (target : String) (configuration : Number)
  | fixedConfiguration (configuration : Number)
  | emptyComment
  | negativeDuration (duration : Number)
  | signalName (kind : String) (name : Datum)
  | emptyCode
  | jointPositionKind (name : String)
  | movementField (field expected found : String)
  | movementKind (target : String) (kind : Datum)
  /-- A value where a kind of movement is expected, as an expression. -/
  | valueAsKind (target value : String)
  | axisNotAttached (axis : Datum) (workObject : String) (robot : Datum)
  | robotNeeded (target : String)
  | twoKinds (name earlier later : String)
deriving Repr

/-- Faults of the index of a joint value. -/
inductive IndexFault where
  | letter (label key : String)
  | outside (label : String) (last : Nat) (key : Datum)
deriving Repr

/-- One place of a job section that does not fit its schema. -/
structure Issue where
  /-- Names and positions that lead to the place. -/
  place : List Datum
  /-- The kind of the disagreement. -/
  kind : String
  /-- The message of a rule of the section itself. -/
  rule : Option String
deriving Repr

/-- Everything that can go wrong. -/
inductive Fault where
  | configuration (fault : ConfigurationFault)
  | robot (fault : RobotFault)
  | action (fault : ActionFault)
  | index (fault : IndexFault)
  | misuse (misuse : Misuse)
  | invalid (issues : List Issue)
deriving Repr

/-! ### Messages -/

namespace ConfigurationFault

/-- What happened. -/
def message : ConfigurationFault → String
  | unserializable kind => s!"Cannot serialize {kind}"
  | notMapping kind => s!"Expected a mapping, got {kind}"
  | untyped _ => "Serialized value has no type"
  | otherType expected found _ => s!"Expected a '{expected}', got a '{found.display}'"
  | newerVersion version found _ =>
    s!"Unsupported schema version {version.display} for '{found.display}'"
  | unknownType found => s!"Unknown serialized type: '{found.display}'"
  | robotNeeded name =>
    s!"Work object '{name.display}' needs a robot to resolve its external axis"
  | axisNotAttached axis _ => s!"External axis '{axis.display}' is not attached to the robot"
  | unknownZone name => s!"Unknown predefined zone: '{name}'"
  | undefinedTool name _ => s!"Tool '{name}' is not defined"
  | invalidValue _ _ => "Invalid serialized value"
  | predefinedTool name => s!"Tool '{name.display}' is predefined and cannot be registered"
  | takenTool name _ => s!"Tool '{name.display}' is already registered"
  | unregisteredTool name _ _ => s!"Tool '{name.display}' is not registered"
  | missingJob path => s!"Job file not found: {path}"
  | unreadableJob path => s!"Failed to load job file: {path}"

/-- The details behind the message. -/
def details : ConfigurationFault → Details
  | untyped data | otherType _ _ data => [("data", data)]
  | newerVersion _ _ supported => [("supported", .int supported)]
  | axisNotAttached _ attached => [("axes", .list attached)]
  | undefinedTool _ defined => [("tools", .list defined)]
  | invalidValue misuse type => [("error", .text misuse), ("type", type)]
  | takenTool _ owner => [("owner", owner)]
  | unregisteredTool _ owner registered =>
    [("owner", owner), ("registered", .list registered)]
  | _ => []

end ConfigurationFault

namespace RobotFault

/-- What happened. -/
def message : RobotFault → String
  | reversedInterval low high =>
    s!"Invalid interval: min ({low.display}) is larger than max ({high.display})"
  | intervalSize _ => "An interval needs exactly two values"
  | unnamedAxis => "An external axis needs a name"
  | rotatingCarrier axis => s!"External axis '{axis.display}': only a linear axis can move the robot"
  | axisNumber axis _ => s!"External axis '{axis.display}': axis number must be in 0-5"
  | closestOnRotary axis =>
    s!"External axis '{axis.display}': closest value is only defined for linear axes"
  | unnamedTool => "A tool needs a name"
  | toolMass tool _ => s!"Tool '{tool.display}': mass must be positive"
  | jointFrameCount robot needed count =>
    s!"Robot '{robot.display}' needs {needed} joint frames, got {count}"
  | jointLimitCount robot needed count =>
    s!"Robot '{robot.display}' needs {needed} joint limits, got {count}"
  | meshCount robot needed count => s!"Robot '{robot.display}' needs {needed} link meshes, got {count}"
  | axisCount robot most _ => s!"Robot '{robot.display}' supports at most {most} external axes"
  | carrierCount robot _ => s!"Robot '{robot.display}' can only be carried by one external axis"
  | carrierNotLinear robot => s!"Robot '{robot.display}': only a linear axis can carry the robot"
  | repeatedNumber robot number _ =>
    s!"Robot '{robot.display}': external axis number {number.display} is used twice"
  | unknownPreset name _ => s!"Unknown robot preset: {name.display}"
  | undefinedTool name _ => s!"Robot tool '{name}' is not defined"

/-- The details behind the message. -/
def details : RobotFault → Details
  | intervalSize values => [("values", .list values)]
  | axisNumber _ number => [("axis_number", .number number)]
  | toolMass _ mass => [("mass", .number mass)]
  | axisCount _ _ count => [("count", .int count)]
  | carrierCount _ carriers => [("axes", .list carriers)]
  | repeatedNumber _ _ axis => [("axis", axis)]
  | unknownPreset _ available => [("available", .names available)]
  | undefinedTool _ defined => [("tools", .names defined)]
  | _ => []

end RobotFault

namespace ActionFault

/-- What happened. -/
def message : ActionFault → String
  | jointCount label most values => s!"{label} takes at most {most} values, got {values.length}"
  | mismatch label symbol first _ =>
    s!"{label}: cannot apply '{symbol}' to a defined and an undefined value at axis {first}"
  | speedName name => s!"Invalid speed data name: '{name.display}'"
  | negativeSpeed name => s!"Speed data '{name}' has a negative speed"
  | notPredefinedSpeed speed _ => s!"v{speed.display} is not a predefined speed"
  | zoneName name => s!"Invalid zone data name: '{name.display}'"
  | negativeZone name => s!"Zone data '{name}' has a negative zone size"
  | zonePrecision precision => s!"Invalid zone precision: {precision.shown}"
  | workObjectName name => s!"Invalid work object name: '{name.display}'"
  | targetName name => s!"Invalid target name: '{name.display}'"
  | targetConfiguration target _ => s!"Target '{target}': axis configuration must be in 0-7"
  | fixedConfiguration configuration =>
    s!"Axis configuration must be in 0-7, got {configuration.shown}"
  | emptyComment => "A comment needs text"
  | negativeDuration _ => "Timer duration cannot be negative"
  | signalName kind name => s!"Invalid {kind} name: '{name.display}'"
  | emptyCode => "A code line cannot be empty"
  | jointPositionKind name => s!"Joint position '{name}' has an unsupported type"
  | movementField field expected found => s!"Movement {field} must be {expected}, got {found}"
  | movementKind target _ | valueAsKind target _ =>
    s!"Movement to '{target}': movement type must be 0, 1 or 2"
  | axisNotAttached axis workObject robot =>
    s!"External axis '{axis.display}' of work object '{workObject}' is not attached to "
      ++ s!"robot '{robot.display}'"
  | robotNeeded target => s!"Movement to '{target}' needs a robot to be declared"
  | twoKinds name earlier later => s!"Name '{name}' is declared as both {earlier} and {later}"

/-- The details behind the message. -/
def details : ActionFault → Details
  | jointCount _ _ values => [("values", .list values)]
  | mismatch _ _ _ all => [("indices", .list (all.map fun (i : Nat) => .int i))]
  | notPredefinedSpeed _ available => [("available", .list (available.map fun (v : Nat) => .int v))]
  | targetConfiguration _ configuration => [("axis_config", .number configuration)]
  | fixedConfiguration configuration => [("fixed_config", .number configuration)]
  | negativeDuration duration => [("duration", .number duration)]
  | movementField field _ _ => [("field", .text field)]
  | movementKind _ kind => [("movement_type", kind)]
  | twoKinds name _ _ => [("name", .text name)]
  | _ => []

end ActionFault

namespace IndexFault

/-- What happened. -/
def message : IndexFault → String
  | letter label key => s!"{label}: unknown axis letter '{key}'"
  | outside label last key => s!"{label}: axis index {key.display} is outside 0-{last}"

/-- The index that was asked for. -/
def key : IndexFault → Datum
  | letter _ key => .text key
  | outside _ _ key => key

end IndexFault

namespace Fault

/-- A message with its details behind it, if there are any. -/
def withDetails (message : String) (details : Details) : String :=
  if details.isEmpty then message
  else message ++ " - Details: " ++ (Datum.record details).shown

/-- The message of a fault. -/
def text : Fault → String
  | configuration f => withDetails f.message f.details
  | robot f => withDetails f.message f.details
  | action (.valueAsKind target value) =>
    (ActionFault.valueAsKind target value).message
      ++ " - Details: \x7b'movement_type': " ++ value ++ "\x7d"
  | action f => withDetails f.message f.details
  | index f => f.message
  | misuse (.unreadable why) => why
  | misuse (.zeroDivisor (some why)) => why
  | misuse _ => ""
  | invalid issues => s!"{issues.length} issues"

/-- Whether the fault is one of those that are meant for the user. -/
def isExpected : Fault → Bool
  | misuse _ | invalid _ => false
  | _ => true

end Fault

/-- The result of an operation that can fail. -/
abbrev Checked (α : Type) := Except Fault α

instance : Coe Misuse Fault := ⟨.misuse⟩

instance : Coe ConfigurationFault Fault := ⟨.configuration⟩

instance : Coe RobotFault Fault := ⟨.robot⟩

instance : Coe ActionFault Fault := ⟨.action⟩

instance : Coe IndexFault Fault := ⟨.index⟩

end SixAxis
