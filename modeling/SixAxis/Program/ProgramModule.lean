import SixAxis.Program.Entity
import SixAxis.Program.Settings

/-!
# Program modules

The module of a program is written in two passes over its actions.  The first one collects the
declarations: every datum once, under its name, in the order of first use.  The second one
collects the instructions of the procedure in program order.

A name stands for data of one kind only; a second kind under the same name is a fault.  What the
solver reports about a target is kept as a warning under the name of the target.

* `Draft` — what the first pass has collected, and `Draft.declareAll`, the pass;
* `ProgramModule.instructions` — the second pass;
* `ProgramModule.generate` — the module with everything there is to tell about it.
-/

namespace SixAxis

/-- The kinds of declared data. -/
inductive DataKind where
  | speed
  | zone
  | workObject
  | target
  | jointPosition
deriving Repr, DecidableEq, BEq

namespace DataKind

/-- The name of a kind in messages. -/
def className : DataKind → String
  | speed => Tag.className .speed
  | zone => Tag.className .zone
  | workObject => Tag.className .workObject
  | target => Tag.className .target
  | jointPosition => Tag.className .jointDeclaration

end DataKind

/-- What the declarations of a program have come to. -/
structure Draft where
  /-- The names in use, in the order of first use, with the kinds of their data. -/
  declared : List (String × DataKind)
  /-- The declarations, each of one or more lines. -/
  declarations : List String
  /-- What the solver reports, under the names of the targets. -/
  warnings : List String
  /-- The solutions in the order they were found. -/
  solutions : List (Solution Float)

namespace Draft

/-- Nothing is declared yet. -/
def empty : Draft := ⟨[], [], [], []⟩

/-- The kind of the data under a name. -/
def kindOf? (d : Draft) (name : String) : Option DataKind :=
  (d.declared.find? (·.1 == name)).map (·.2)

end Draft

/-- Computations that add to a draft.  What was added before a fault stays. -/
abbrev Drafting (α : Type) := ExceptT Fault (StateM Draft) α

namespace Drafting

/-- A result that adds nothing. -/
def ofChecked {α : Type} (x : Checked α) : Drafting α := ExceptT.mk (pure x)

/-- Whether data of this kind is declared under a name; another kind is a fault. -/
def isDeclared (name : String) (kind : DataKind) : Drafting Bool := do
  match (← get).kindOf? name with
  | none => return false
  | some earlier =>
    if earlier = kind then return true
    else ofChecked (.error (ActionFault.twoKinds name earlier.className kind.className))

/-- Declares data under a name unless it is declared already.  Data without a declaration are not
looked at. -/
def register (name : String) (kind : DataKind) (code : String) : Drafting Unit := do
  unless code.isEmpty do
    unless ← isDeclared name kind do
      modify fun d => { d with
        declared := d.declared ++ [(name, kind)]
        declarations := d.declarations ++ [code] }

/-- Adds a declaration without a name. -/
def plain (code : String) : Drafting Unit := do
  unless code.isEmpty do modify fun d => { d with declarations := d.declarations ++ [code] }

/-- Declares the target of a movement, solving it first. -/
def target (m : Movement) (r : Robot Float) : Drafting Unit := do
  unless ← isDeclared m.variableName .target do
    let solution ← ofChecked (m.solution r)
    modify fun d => { d with solutions := d.solutions ++ [solution] }
    register m.variableName .target (m.declarationOf solution)
    modify fun d => { d with
      warnings := d.warnings ++ solution.reports.map fun report =>
        m.target.name.text ++ ": " ++ report.text }

/-- Declares what a movement uses, in this order: speed, zone, work object, target. -/
def movement (m : Movement) (r : Robot Float) : Drafting Unit := do
  register m.speed.name.text .speed (← ofChecked m.speed.declaration)
  register m.zone.name.text .zone (← ofChecked m.zone.declaration)
  register m.workObject.name.text .workObject m.workObject.declaration
  target m r

/-- Declares what an action uses. -/
def action (a : Action) (r : Robot Float) : Drafting Unit :=
  match a with
  | .movement m => movement m r
  | .joints j => register j.name.text .jointPosition j.declaration
  | a => do plain (← ofChecked (a.declaration (some r)))

/-- Declares what a value uses, which has to be an action. -/
def value (v : Option Entity) (r : Robot Float) : Drafting Unit :=
  match v with
  | some (.action a) => action a r
  | _ => ofChecked (.error Misuse.partless)

/-- Declares what some values use. -/
def all (values : List (Option Entity)) (r : Robot Float) : Drafting Unit :=
  values.forM fun v => value v r

end Drafting

/-- What generating a program module has come to. -/
structure Generated where
  moduleName : String
  /-- The text of the module, or what kept it from being written. -/
  text : Checked String
  draft : Draft
  instructions : List String
  /-- Whether the first movement, if one was reached, is one of the joints. -/
  startsWithJoints : Option Bool

namespace ProgramModule

/-- The instructions of some values, and whether the first movement among them is one of the
joints; both as far as there is no fault. -/
def instructions (r : Robot Float) :
    List (Option Entity) → Option Bool → List String → Option Bool × Checked (List String)
  | [], first, codes => (first, .ok codes)
  | some (.action a) :: rest, first, codes =>
    let first := match a, first with
      | .movement m, none => some !m.isLinear
      | _, first => first
    match a.instruction (some r) with
    | .error f => (first, .error f)
    | .ok code => instructions r rest first (if code.isEmpty then codes else codes ++ [code])
  | _ :: _, first, _ => (first, .error Misuse.partless)

/-- The lines of some code, indented. -/
def indented (indent code : String) : List String := (code.splitOn "\n").map (indent ++ ·)

/-- The lines of a module. -/
def lines (settings : Settings) (moduleName : String) (declarations instructions : List String) :
    List String :=
  let indent := settings.indent
  [s!"MODULE {moduleName}", ""]
    ++ declarations.flatMap (indented indent)
    ++ (if declarations.isEmpty then [] else [""])
    ++ [s!"{indent}PROC {settings.procedureName}()"]
    ++ instructions.flatMap (indented (indent ++ indent))
    ++ [s!"{indent}ENDPROC", "", "ENDMODULE"]

/-- The name of a module: that of the settings where none is given. -/
def nameOr (settings : Settings) (moduleName : Option String) : String :=
  match moduleName with
  | some name => if name.isEmpty then settings.moduleName else name
  | none => settings.moduleName

/-- The module of some values for a robot. -/
def generate (r : Robot Float) (settings : Settings) (values : List (Option Entity))
    (moduleName : Option String := none) : Generated :=
  let name := nameOr settings moduleName
  let (declared, draft) := (Drafting.all values r).run.run .empty
  match declared with
  | .error f => ⟨name, .error f, draft, [], none⟩
  | .ok () =>
    let (first, codes) := instructions r values none []
    match codes with
    | .error f => ⟨name, .error f, draft, [], first⟩
    | .ok codes => ⟨name, .ok (joinLines settings (lines settings name draft.declarations codes)),
        draft, codes, first⟩

end ProgramModule

end SixAxis
