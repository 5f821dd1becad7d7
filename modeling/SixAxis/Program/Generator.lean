import SixAxis.Program.ProgramModule
import SixAxis.Program.SystemModule

/-!
# Generators

A generator makes modules for one robot with one set of settings.  It remembers what there is to
tell about the program it made last — the names that are declared, the warnings, and how the first
movement goes — and nothing else, so that one program never depends on another.

* `Generator.createProgram`, `Generator.systemModule` — the modules;
* `Generator.call` — either of them as a step of the generator.
-/

namespace SixAxis

/-- A generator of modules. -/
structure Generator where
  robot : Robot Float
  settings : Settings
  /-- The program that was made last, if there is one. -/
  last : Option Generated

namespace Generator

/-- A generator that has not made any program. -/
def fresh (robot : Robot Float) (settings : Settings) : Generator := ⟨robot, settings, none⟩

/-- The names that the last program declares, with the kinds of their data. -/
def declared (g : Generator) : List (String × DataKind) :=
  (g.last.map (·.draft.declared)).getD []

/-- The warnings about the last program. -/
def warnings (g : Generator) : List String := (g.last.map (·.draft.warnings)).getD []

/-- Whether the first movement of the last program is one of the joints. -/
def startsWithJoints (g : Generator) : Option Bool := g.last.bind (·.startsWithJoints)

/-- The generator after a program of some values, and the text of its module. -/
def createProgram (g : Generator) (values : List (Option Entity))
    (moduleName : Option String := none) : Generator × Checked String :=
  let made := ProgramModule.generate g.robot g.settings values moduleName
  ({ g with last := some made }, made.text)

/-- The system module with some tools. -/
def systemModule (g : Generator) (tools : List (Tool Float)) : Checked String :=
  SystemModule.text g.settings tools

/-- What can be asked of a generator. -/
inductive Call where
  | program (values : List (Option Entity)) (moduleName : Option String)
  | system (tools : List (Tool Float))

/-- The generator after a call, and the answer. -/
def call (g : Generator) : Call → Generator × Checked String
  | .program values moduleName => g.createProgram values moduleName
  | .system tools => (g, g.systemModule tools)

end Generator

end SixAxis
