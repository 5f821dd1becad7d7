import SixAxis.Program.Identifier

/-!
# Settings of generated modules

The names in a program module, how its lines are indented and ended, and the files that the
modules are written to.
-/

namespace SixAxis

/-- How modules are written. -/
structure Settings where
  moduleName : String
  procedureName : String
  indent : String
  lineEnding : String
  programFile : String
  systemFile : String
deriving Repr

namespace Settings

/-- The settings where none are given. -/
def usual : Settings := ⟨"MainModule", "main", "\t", "\n", "main_T.mod", "BASE.sys"⟩

instance : Inhabited Settings := ⟨usual⟩

end Settings

/-- The text of some lines, every line feed in them and between them replaced by the line ending. -/
def joinLines (settings : Settings) (lines : List String) : String :=
  settings.lineEnding.intercalate ("\n".intercalate lines |>.splitOn "\n")

end SixAxis
