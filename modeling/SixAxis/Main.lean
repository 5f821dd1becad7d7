import SixAxis.Console.Run

/-!
# The program

Looks at the paths that the arguments name, has the command carried out, keeps the files that it has
made, and shows its report: the table and the lines below it on standard output, the log on standard
error.
-/

namespace SixAxis

/-- What is at a place. -/
def contentAt (place : Place) : IO PathContent := do
  match ← (IO.FS.readFile place.path.text).toBaseIO with
  | .ok text => return .file (.text text)
  | .error (.inappropriateType ..) => return .directory
  | .error _ => return .nothing

/-- The places that a path leads to and through. -/
def placesOf (path : Path) : List Place :=
  (List.range path.names.length).map fun n =>
    (path.names.take (n + 1)).foldl Place.step (Place.start path.fromRoot)

/-- A disk that knows what some paths lead to and through. -/
def diskFor (paths : List Path) : IO Disk := do
  return { known := ← (paths.flatMap placesOf).mapM fun p => do return (p, ← contentAt p) }

/-- Makes what a disk has come to hold. -/
def keep (place : Place) : PathContent → IO Unit
  | .directory => IO.FS.createDirAll place.path.text
  | .file (.text text) => IO.FS.writeFile place.path.text text
  | _ => pure ()

/-- A table as text, with two blanks between its columns. -/
def Console.Table.text (t : Console.Table) : List String :=
  let rows := t.header :: t.rows
  let width (column : Nat) : Nat :=
    rows.foldl (fun w row => max w (row.getD column "").length) 0
  let padded (cell : String) (column : Nat) : String :=
    cell ++ String.ofList (List.replicate (width column + 2 - cell.length) ' ')
  let line (row : List String) : String :=
    (row.zipIdx.foldl (fun text (cell, column) => text ++ padded cell column) "").trimAsciiEnd.toString
  t.title :: rows.map line

/-- Carries out the arguments; the result is the exit code. -/
def carryOut (args : List String) : IO UInt32 := do
  let start ← diskFor (Console.pathsOf args {})
  let report := Console.run args (← diskFor (Console.pathsOf args start))
  for (place, content) in report.disk.made do keep place content
  for line in ((report.table.map (·.text)).getD []) ++ report.lines do IO.println line
  for entry in report.log do IO.eprintln entry.line
  if let some fault := report.uncaught then IO.eprintln fault.text
  return report.exit.toUInt32

end SixAxis

/-- Runs the program. -/
def main (args : List String) : IO UInt32 := SixAxis.carryOut args
