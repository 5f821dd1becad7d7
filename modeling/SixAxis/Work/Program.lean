import SixAxis.Work.Robot
import SixAxis.Program.Decode
import SixAxis.Program.Generator

/-!
# Programs with a journal

Solving movements, registering tools and generating modules, together with the events they leave.
-/

namespace SixAxis

namespace Generated

/-- The events of a generated module: its solutions, and once it is written its warnings and its
size. -/
def events (g : Generated) (robot : Datum) (actions : Nat) : List Event :=
  let solutions := g.draft.solutions.map (·.event robot)
  match g.text with
  | .error _ => solutions
  | .ok _ =>
    solutions
      ++ (if g.startsWithJoints = some false then [.linearStart] else [])
      ++ g.draft.warnings.map .programWarning
      ++ [.programGenerated actions g.draft.declarations.length g.instructions.length
            g.draft.warnings.length]

end Generated

namespace Work

/-- The solution of a movement. -/
def solveMovement (m : Movement) (r : Robot Float) (fixed : Option Number := none)
    (reference : RobotJoints Float := default) : Work (Solution Float) := do
  let s ← m.solution r fixed reference
  record (s.event r.name)
  return s

/-- What an action adds to the declarations; the target of a movement is solved for it. -/
def declaration (a : Action) (r : Option (Robot Float)) : Work String := do
  match a, r with
  | .movement m, some r => return m.declarationOf (← solveMovement m r)
  | a, r => a.declaration r

/-- A tool added to a table. -/
def register (t : ToolTable) (tool : Tool Float) (replace : Bool := false) : Work ToolTable := do
  let t ← t.register tool replace
  record (.toolRegistered t.owner tool.name)
  return t

/-- A call of a generator; that a module could not be written is part of the result. -/
def call (g : Generator) (c : Generator.Call) : Work (Generator × Checked String) := do
  let (after, answer) := g.call c
  if let (.program values _, some made) := (c, after.last) then
    let during : Generating := ⟨made.moduleName, g.robot.name⟩
    for e in made.events g.robot.name values.length do record e (some during)
  return (after, answer)

end Work

end SixAxis
