import SixAxis.Program.ToolTable
import SixAxis.Program.Settings
import SixAxis.CodeNumber

/-!
# System modules

The module that declares what every program of a controller uses: the standard tool, work object
and load, and behind them the tools of a table.
-/

namespace SixAxis.SystemModule

/-- The lines in front of the tools. -/
def header : List String := [
  "MODULE BASE (SYSMODULE, NOSTEPIN, VIEWONLY)",
  "",
  " ! System module with basic predefined system data",
  " !************************************************",
  "",
  " ! System data tool0, wobj0 and load0",
  " ! Do not translate or delete tool0, wobj0, load0",
  " PERS tooldata tool0 := [TRUE, [[0, 0, 0], [1, 0, 0, 0]],",
  "\t\t\t\t\t\t[0.001, [0, 0, 0.001],[1, 0, 0, 0], 0, 0, 0]];",
  "",
  " PERS wobjdata wobj0 := [FALSE, TRUE, \"\" , [[0, 0, 0],[1, 0, 0, 0]],",
  "\t\t\t\t\t\t[[0, 0, 0],[1, 0, 0, 0]]];",
  "",
  " PERS loaddata load0 := [0.001, [0, 0, 0.001],[1, 0, 0, 0], 0, 0, 0];",
  ""]

/-- The declaration of a tool: its centre point and its mass. -/
def toolLines (t : Tool Float) : Checked (List String) := do
  let tcp ← t.localTcp?
  let position := CodeNumber.list tcp.point.toList
  let orientation := CodeNumber.list tcp.quaternion.toList CodeNumber.unitDecimals
  let mass ← CodeNumber.ofNumber t.mass CodeNumber.fineDecimals
  return [s!" PERS tooldata {t.name.display} := [TRUE, [[{position}], [{orientation}]],",
    s!"\t\t\t\t\t\t[{mass}, [0, 0, 0.001],[1, 0, 0, 0], 0, 0, 0]];",
    ""]

/-- The lines of the module of some tools. -/
def lines (tools : List (Tool Float)) : Checked (List String) := do
  return header ++ (← tools.mapM toolLines).flatten ++ ["ENDMODULE"]

/-- The text of the module of some tools. -/
def text (settings : Settings) (tools : List (Tool Float)) : Checked String := do
  return joinLines settings (← lines tools)

end SixAxis.SystemModule
