import SixAxis.Arm.Tool

/-!
# Tool tables

The tools that a system module declares, by name, in the order they were registered.  Replacing a
tool keeps its place and the name that the place was taken with.  The standard tool is never in a
table: every controller declares it.

A name can be any datum that can name a field; names are told apart by value.

* `ToolTable.register`, `ToolTable.unregister` — changes, each with its faults;
* `ToolTable.get?`, `ToolTable.names` — what is in a table.
-/

namespace SixAxis

/-- The tools of an owner. -/
structure ToolTable where
  owner : Datum
  /-- The tools under their names. -/
  entries : List (Datum × Tool Float)

namespace ToolTable

/-- The table of an owner without tools. -/
def empty (owner : Datum) : ToolTable := ⟨owner, []⟩

/-- The names of the tools. -/
def names (t : ToolTable) : List Datum := t.entries.map (·.1)

/-- The tools in order. -/
def tools (t : ToolTable) : List (Tool Float) := t.entries.map (·.2)

/-- A name that tools can be kept under. -/
def checkName (name : Datum) : Checked Unit :=
  if name.isKey then .ok () else .error Misuse.illTyped

/-- Whether a tool of this name is in the table. -/
def contains (t : ToolTable) (name : Datum) : Bool := t.names.any name.same

/-- The tool of a name. -/
def get? (t : ToolTable) (name : Datum) : Option (Tool Float) :=
  (t.entries.find? (name.same ·.1)).map (·.2)

/-- The table with a tool added, which replaces one of the same name only if that is asked for. -/
def register (t : ToolTable) (tool : Tool Float) (replace : Bool := false) : Checked ToolTable := do
  if tool.name.isText Tool.standardName then
    .error (ConfigurationFault.predefinedTool tool.name)
  checkName tool.name
  if !t.contains tool.name then return { t with entries := t.entries ++ [(tool.name, tool)] }
  if !replace then .error (ConfigurationFault.takenTool tool.name t.owner)
  return { t with
    entries := t.entries.map fun e => if tool.name.same e.1 then (e.1, tool) else e }

/-- A tool taken out of the table. -/
def unregister (t : ToolTable) (name : Datum) : Checked (Tool Float × ToolTable) := do
  checkName name
  match t.get? name with
  | some tool => return (tool, { t with entries := t.entries.filter (!name.same ·.1) })
  | none => .error (ConfigurationFault.unregisteredTool name t.owner t.names)

/-- The table without its tools. -/
def clear (t : ToolTable) : ToolTable := empty t.owner

/-- The table as an expression. -/
def expression (t : ToolTable) : String :=
  s!"ToolRegistry(owner='{t.owner.display}', tools={(Datum.list t.names).shown})"

end ToolTable

end SixAxis
