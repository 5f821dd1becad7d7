import SixAxis.Datum.Json
import SixAxis.Fault

/-!
# Journal

What happens while robots are built, targets are solved and programs are generated is recorded
as events.  An event has a level, the name of the part of the program that it comes from, and
what it is about; where a program is being generated, also the module and the robot, unless the
event names a robot of its own.

* `Event.entry` — an event as a journal keeps it;
* `Entry.line` — the line of a journal in JSON;
* `Work` — computations that can fail and leave events.
-/

namespace SixAxis

/-- How serious an event is. -/
inductive Level where
  | debug
  | info
  | warning
deriving Repr, DecidableEq, BEq

namespace Level

/-- The word for a level. -/
def word : Level → String
  | debug => "debug"
  | info => "info"
  | warning => "warning"

/-- Levels in ascending order. -/
def rank : Level → Nat
  | debug => 10
  | info => 20
  | warning => 30

end Level

/-- What can happen. -/
inductive Event where
  | robotCreated (robot tool : Datum) (axes : Nat)
  | modelLoaded (model tool : Datum)
  | postureOutOfLimits (robot : Datum) (messages : List String)
  | solutionOutOfLimits (robot : Datum) (configuration : Nat) (messages : List String)
  | solved (robot : Datum) (configuration : Nat)
  | toolRegistered (owner tool : Datum)
  | linearStart
  | programWarning (message : String)
  | programGenerated (actions declarations instructions warnings : Nat)
deriving Repr

/-- The module and the robot that a program is generated for. -/
structure Generating where
  moduleName : String
  robot : Datum
deriving Repr

/-- An event in a journal. -/
structure Entry where
  event : String
  level : Level
  logger : String
  context : Datum.Fields
deriving Repr

namespace Event

/-- The name of an event. -/
def name : Event → String
  | robotCreated .. => "robot_created"
  | modelLoaded .. => "robot_preset_loaded"
  | postureOutOfLimits .. => "forward_kinematics_out_of_limits"
  | solutionOutOfLimits .. => "inverse_kinematics_out_of_limits"
  | solved .. => "inverse_kinematics_solved"
  | toolRegistered .. => "tool_registered"
  | linearStart => "first_movement_is_linear"
  | programWarning .. => "rapid_generation_warning"
  | programGenerated .. => "rapid_program_generated"

/-- How serious an event is. -/
def level : Event → Level
  | robotCreated .. | solved .. | toolRegistered .. => .debug
  | modelLoaded .. | programGenerated .. => .info
  | _ => .warning

/-- The part of the program that an event comes from. -/
def logger : Event → String
  | robotCreated .. => "rapidgen.kinematics.robot"
  | modelLoaded .. => "rapidgen.kinematics.presets"
  | postureOutOfLimits .. => "rapidgen.kinematics.forward"
  | solutionOutOfLimits .. | solved .. => "rapidgen.kinematics.inverse"
  | toolRegistered .. => "rapidgen.rapid.registry"
  | linearStart | programWarning .. | programGenerated .. => "rapidgen.rapid.generator"

/-- What an event is about. -/
def about : Event → Datum.Fields
  | robotCreated robot tool axes =>
    [("robot", robot), ("tool", tool), ("external_axes", .int axes)]
  | modelLoaded model tool => [("preset", model), ("tool", tool)]
  | postureOutOfLimits robot messages =>
    [("robot", robot), ("messages", .names messages)]
  | solutionOutOfLimits robot configuration messages =>
    [("robot", robot), ("axis_configuration", .int configuration),
      ("messages", .names messages)]
  | solved robot configuration =>
    [("robot", robot), ("axis_configuration", .int configuration)]
  | toolRegistered owner tool => [("owner", owner), ("tool", tool)]
  | linearStart => []
  | programWarning message => [("message", .text message)]
  | programGenerated actions declarations instructions warnings =>
    [("actions", .int actions), ("declarations", .int declarations),
      ("instructions", .int instructions), ("warnings", .int warnings)]

/-- An event in a journal, in the course of generating a program or outside of it. -/
def entry (e : Event) (during : Option Generating := none) : Entry :=
  let outer := match during with
    | none => []
    | some g => [("module", .text g.moduleName), ("robot", g.robot)]
  { event := e.name
    level := e.level
    logger := e.logger
    context := e.about.foldl (fun fields (name, d) => Datum.insert fields name d) outer }

end Event

namespace Entry

/-- An entry as a record. -/
def toData (e : Entry) : Datum :=
  let named : Datum.Fields :=
    [("event", .text e.event), ("level", .text e.level.word), ("logger", .text e.logger)]
  .record (named.foldl (fun fields (name, d) => Datum.insert fields name d) e.context)

/-- The line of an entry in a journal that is written as JSON. -/
def line (e : Entry) : String := e.toData.toJson

end Entry

/-- A computation that can fail and leaves entries in a journal. -/
abbrev Work (α : Type) := ExceptT Fault (StateM (List Entry)) α

namespace Work

/-- Leaves an event in the journal. -/
def record (e : Event) (during : Option Generating := none) : Work Unit :=
  modify (· ++ [e.entry during])

/-- A result that needs no journal. -/
def ofChecked {α : Type} (x : Checked α) : Work α := ExceptT.mk (pure x)

instance : MonadLift Checked Work := ⟨ofChecked⟩

/-- The result of a computation and the entries it leaves. -/
def result {α : Type} (w : Work α) : Checked α × List Entry := (ExceptT.run w).run []

end Work

end SixAxis
